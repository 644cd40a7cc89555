import Mathlib.Algebra.BigOperators.Group.List.Basic
import Mathlib.Algebra.GroupWithZero.Nat
import Mathlib.Data.List.Basic
import Mathlib.Data.List.Nodup

/-! Memory cells that are allocated once, overwritten in place, and freed.
Addresses are never handed out twice, so reading a freed cell is always visible
as a read of nothing. -/

namespace Memory

abbrev Addr := Nat

/-- Cells in the order of their allocation. A freed cell is empty. -/
structure Arena (α : Type*) where
  cells : List (Option α)
  deriving DecidableEq, Repr

namespace Arena
variable {α β : Type*}

def empty : Arena α := ⟨[]⟩

/-- Every address that was ever allocated is below the size. -/
def size (arena : Arena α) : Nat := arena.cells.length

def get? (arena : Arena α) (a : Addr) : Option α := arena.cells.getD a none

def put (arena : Arena α) (a : Addr) (value : α) : Arena α := ⟨arena.cells.set a (some value)⟩

def free (arena : Arena α) (a : Addr) : Arena α := ⟨arena.cells.set a none⟩

/-- Allocates a cell at the address `arena.size`. -/
def alloc (arena : Arena α) (value : α) : Arena α := ⟨arena.cells ++ [some value]⟩

/-- Changes a live cell in place; a freed cell stays freed. -/
def modify (arena : Arena α) (a : Addr) (f : α → α) : Arena α :=
  match arena.get? a with
  | some value => arena.put a (f value)
  | none => arena

def map (f : α → β) (arena : Arena α) : Arena β := ⟨arena.cells.map (Option.map f)⟩

def sum (f : α → Nat) (arena : Arena α) : Nat := (arena.cells.map fun cell => cell.elim 0 f).sum

def count (p : α → Bool) (arena : Arena α) : Nat := arena.sum fun value => if p value then 1 else 0

theorem ext_cells {first second : Arena α} (same : first.cells = second.cells) : first = second := by
  cases first
  cases second
  exact congrArg _ same

theorem ext_get? {first second : Arena α} (size : first.size = second.size)
    (same : ∀ a, first.get? a = second.get? a) : first = second := by
  apply ext_cells
  apply List.ext_getElem size
  intro a inside inside'
  have read := same a
  simpa [get?, List.getD_eq_getElem?_getD, List.getElem?_eq_getElem inside, List.getElem?_eq_getElem inside'] using read

@[simp] theorem get?_empty (a : Addr) : (empty : Arena α).get? a = none := rfl

theorem get?_of_size_le {arena : Arena α} {a : Addr} (outside : arena.size ≤ a) : arena.get? a = none :=
  List.getD_eq_getElem?_getD.trans (by rw [List.getElem?_eq_none outside]; rfl)

theorem lt_size {arena : Arena α} {a : Addr} {value : α} (live : arena.get? a = some value) : a < arena.size := by
  by_contra outside
  rw [get?_of_size_le (Nat.le_of_not_lt outside)] at live
  cases live

theorem get?_put (arena : Arena α) (a b : Addr) (value : α) :
    (arena.put a value).get? b = if a = b ∧ a < arena.size then some value else arena.get? b := by
  simp only [get?, put, size, List.getD_eq_getElem?_getD, List.getElem?_set]
  by_cases same : a = b
  · subst b
    by_cases inside : a < arena.cells.length <;> simp [inside]
  · simp [same]

theorem get?_put_self {arena : Arena α} {a : Addr} {old : α} (live : arena.get? a = some old) (value : α) :
    (arena.put a value).get? a = some value := by
  simp [get?_put, lt_size live]

@[simp] theorem get?_put_ne (arena : Arena α) {a b : Addr} (different : b ≠ a) (value : α) :
    (arena.put a value).get? b = arena.get? b := by
  simp [get?_put, Ne.symm different]

theorem get?_free (arena : Arena α) (a b : Addr) :
    (arena.free a).get? b = if a = b then none else arena.get? b := by
  simp only [get?, free, List.getD_eq_getElem?_getD, List.getElem?_set]
  by_cases same : a = b
  · subst b
    by_cases inside : a < arena.cells.length <;> simp [inside]
  · simp [same]

@[simp] theorem get?_free_self (arena : Arena α) (a : Addr) : (arena.free a).get? a = none := by
  simp [get?_free]

@[simp] theorem get?_free_ne (arena : Arena α) {a b : Addr} (different : b ≠ a) :
    (arena.free a).get? b = arena.get? b := by
  simp [get?_free, Ne.symm different]

theorem of_free {arena : Arena α} {a b : Addr} {value : α} (found : (arena.free a).get? b = some value) :
    a ≠ b ∧ arena.get? b = some value := by
  rw [get?_free] at found
  split at found
  · cases found
  next other => exact ⟨other, found⟩

theorem get?_alloc (arena : Arena α) (b : Addr) (value : α) :
    (arena.alloc value).get? b = if b = arena.size then some value else arena.get? b := by
  simp only [get?, alloc, size, List.getD_eq_getElem?_getD, List.getElem?_append]
  by_cases same : b = arena.cells.length
  · simp [same]
  · rcases Nat.lt_or_gt_of_ne same with inside | outside
    · simp [same, inside]
    · have beyond : b - arena.cells.length ≠ 0 := Nat.sub_ne_zero_of_lt outside
      simp [same, Nat.not_lt_of_gt outside, beyond]

theorem of_alloc {arena : Arena α} {b : Addr} {new value : α} (found : (arena.alloc new).get? b = some value) :
    b = arena.size ∧ value = new ∨ arena.get? b = some value := by
  rw [get?_alloc] at found
  split at found
  next last => exact .inl ⟨last, (Option.some.inj found).symm⟩
  next => exact .inr found

@[simp] theorem get?_alloc_self (arena : Arena α) (value : α) : (arena.alloc value).get? arena.size = some value := by
  simp [get?_alloc]

theorem get?_alloc_of_live {arena : Arena α} {b : Addr} {old : α} (live : arena.get? b = some old) (value : α) :
    (arena.alloc value).get? b = some old := by
  simp [get?_alloc, Nat.ne_of_lt (lt_size live), live]

@[simp] theorem get?_map (f : α → β) (arena : Arena α) (a : Addr) : (arena.map f).get? a = (arena.get? a).map f := by
  simp only [get?, map, List.getD_eq_getElem?_getD, List.getElem?_map]
  cases arena.cells[a]? <;> rfl

@[simp] theorem size_put (arena : Arena α) (a : Addr) (value : α) : (arena.put a value).size = arena.size := by
  simp [size, put]

@[simp] theorem size_free (arena : Arena α) (a : Addr) : (arena.free a).size = arena.size := by
  simp [size, free]

@[simp] theorem size_alloc (arena : Arena α) (value : α) : (arena.alloc value).size = arena.size + 1 := by
  simp [size, alloc]

@[simp] theorem size_map (f : α → β) (arena : Arena α) : (arena.map f).size = arena.size := by
  simp [size, map]

@[simp] theorem map_put (f : α → β) (arena : Arena α) (a : Addr) (value : α) :
    (arena.put a value).map f = (arena.map f).put a (f value) := by
  simp [map, put, List.map_set]

@[simp] theorem map_free (f : α → β) (arena : Arena α) (a : Addr) : (arena.free a).map f = (arena.map f).free a := by
  simp [map, free, List.map_set]

@[simp] theorem map_alloc (f : α → β) (arena : Arena α) (value : α) :
    (arena.alloc value).map f = (arena.map f).alloc (f value) := by
  simp [map, alloc]

theorem put_same {arena : Arena α} {a : Addr} {value : α} (live : arena.get? a = some value) :
    arena.put a value = arena := by
  apply ext_cells
  apply List.ext_getElem?
  intro b
  have inside := lt_size live
  have stored : arena.cells[a]? = some (some value) := by
    simp only [get?, List.getD_eq_getElem?_getD] at live
    cases held : arena.cells[a]? with
    | none => simp [held] at live
    | some cell =>
      rw [held, Option.getD_some] at live
      rw [live]
  by_cases same : a = b
  · subst b
    rw [stored]
    exact (List.getElem?_set_self inside).trans rfl
  · exact List.getElem?_set_ne same

theorem free_dead {arena : Arena α} {a : Addr} (dead : arena.get? a = none) : arena.free a = arena := by
  apply ext_get?
  · simp
  · intro b
    rw [get?_free]
    split
    next same => rw [← same, dead]
    next => rfl

theorem free_comm (arena : Arena α) (a b : Addr) : (arena.free a).free b = (arena.free b).free a := by
  apply ext_get?
  · simp
  · intro c
    simp only [get?_free]
    split <;> split <;> rfl

@[simp] theorem put_put (arena : Arena α) (a : Addr) (first second : α) :
    (arena.put a first).put a second = arena.put a second := by
  simp [put]

@[simp] theorem free_put_self (arena : Arena α) (a : Addr) (value : α) : (arena.put a value).free a = arena.free a := by
  simp [put, free]

theorem modify_eq {arena : Arena α} {a : Addr} {value : α} (live : arena.get? a = some value) (f : α → α) :
    arena.modify a f = arena.put a (f value) := by
  simp [modify, live]

theorem get?_modify (arena : Arena α) (a b : Addr) (f : α → α) :
    (arena.modify a f).get? b = if a = b then (arena.get? b).map f else arena.get? b := by
  by_cases same : a = b
  · subst b
    cases held : arena.get? a with
    | none => simp [modify, held]
    | some value => simp [modify, held, get?_put_self held]
  · cases held : arena.get? a with
    | none => simp [modify, held, same]
    | some value => simp [modify, held, same, Ne.symm same]

@[simp] theorem size_modify (arena : Arena α) (a : Addr) (f : α → α) : (arena.modify a f).size = arena.size := by
  unfold modify
  split <;> simp

private theorem sum_set (cells : List (Option α)) (f : Option α → Nat) (a : Addr) (cell : Option α)
    (inside : a < cells.length) :
    ((cells.set a cell).map f).sum + f (cells.getD a none) = (cells.map f).sum + f cell := by
  induction cells generalizing a with
  | nil => simp at inside
  | cons first rest ih =>
    cases a with
    | zero => simp [Nat.add_comm, Nat.add_left_comm]
    | succ a =>
      have smaller := ih a (by simpa using inside)
      simp only [List.set_cons_succ, List.map_cons, List.sum_cons, List.getD_cons_succ]
      omega

theorem sum_put {arena : Arena α} {a : Addr} {old : α} (live : arena.get? a = some old) (f : α → Nat) (value : α) :
    (arena.put a value).sum f + f old = arena.sum f + f value := by
  have changed := sum_set arena.cells (fun cell => cell.elim 0 f) a (some value) (lt_size live)
  rwa [show arena.cells.getD a none = some old from live] at changed

theorem sum_free {arena : Arena α} {a : Addr} {old : α} (live : arena.get? a = some old) (f : α → Nat) :
    (arena.free a).sum f + f old = arena.sum f := by
  have changed := sum_set arena.cells (fun cell => cell.elim 0 f) a none (lt_size live)
  rwa [show arena.cells.getD a none = some old from live] at changed

@[simp] theorem sum_alloc (arena : Arena α) (f : α → Nat) (value : α) :
    (arena.alloc value).sum f = arena.sum f + f value := by
  simp [sum, alloc]

@[simp] theorem sum_map (f : β → Nat) (g : α → β) (arena : Arena α) :
    (arena.map g).sum f = arena.sum fun value => f (g value) := by
  simp only [sum, map, List.map_map]
  congr 1
  apply List.map_congr_left
  intro cell _
  cases cell <;> rfl

theorem sum_congr {arena : Arena α} {f g : α → Nat} (agree : ∀ a value, arena.get? a = some value → f value = g value) :
    arena.sum f = arena.sum g := by
  simp only [sum]
  congr 1
  apply List.map_congr_left
  intro cell member
  obtain ⟨a, inside, rfl⟩ := List.mem_iff_getElem.mp member
  cases held : arena.cells[a] with
  | none => rfl
  | some value =>
    apply agree a
    simp [get?, List.getD_eq_getElem?_getD, List.getElem?_eq_getElem inside, held]

theorem sum_eq_zero {arena : Arena α} {f : α → Nat} (zero : ∀ a value, arena.get? a = some value → f value = 0) :
    arena.sum f = 0 := by
  have constant := sum_congr zero
  have nothing : ∀ cells : List (Option α), (cells.map fun cell => cell.elim 0 fun _ => 0).sum = 0 := by
    intro cells
    induction cells with
    | nil => rfl
    | cons cell cells ih => cases cell <;> simpa using ih
  exact constant.trans (nothing arena.cells)

@[simp] theorem count_alloc (arena : Arena α) (p : α → Bool) (value : α) :
    (arena.alloc value).count p = arena.count p + if p value then 1 else 0 := sum_alloc ..

theorem count_free {arena : Arena α} {a : Addr} {old : α} (live : arena.get? a = some old) (p : α → Bool) :
    (arena.free a).count p + (if p old then 1 else 0) = arena.count p := sum_free live _

theorem count_free_le (arena : Arena α) (a : Addr) (p : α → Bool) : (arena.free a).count p ≤ arena.count p := by
  cases held : arena.get? a with
  | some old =>
    have freed := count_free held p
    omega
  | none => simp only [free_dead held, Nat.le_refl]

theorem count_pos {arena : Arena α} {a : Addr} {value : α} (live : arena.get? a = some value) {p : α → Bool}
    (holds : p value = true) : 0 < arena.count p := by
  have freed := count_free live p
  rw [if_pos holds] at freed
  omega

theorem exists_of_count_pos {arena : Arena α} {p : α → Bool} (some : 0 < arena.count p) :
    ∃ a value, arena.get? a = .some value ∧ p value = true := by
  by_contra none
  have zero : arena.count p = 0 := by
    apply sum_eq_zero
    intro a value live
    exact if_neg fun holds => none ⟨a, value, live, holds⟩
  omega

theorem count_pos_live {arena : Arena α} {a : Addr} (live : (arena.get? a).isSome = true) : 0 < arena.count fun _ => true := by
  obtain ⟨_, held⟩ := Option.isSome_iff_exists.mp live
  exact count_pos held rfl

theorem count_free_live {arena : Arena α} {a : Addr} (live : (arena.get? a).isSome = true) :
    ((arena.free a).count fun _ => true) + 1 = arena.count fun _ => true := by
  obtain ⟨_, held⟩ := Option.isSome_iff_exists.mp live
  exact count_free held fun _ => true

theorem dead_of_count {arena : Arena α} (none : arena.count (fun _ => true) = 0) (a : Addr) : arena.get? a = .none := by
  cases held : arena.get? a with
  | none => rfl
  | some value =>
    have some := count_pos held (p := fun _ => true) rfl
    omega

theorem count_eq_length (arena : Arena α) (p : α → Bool) {addresses : List Addr} (nodup : addresses.Nodup)
    (exact : ∀ a, a ∈ addresses ↔ ∃ value, arena.get? a = some value ∧ p value = true) :
    arena.count p = addresses.length := by
  induction addresses generalizing arena with
  | nil =>
    apply sum_eq_zero
    intro a value live
    have failing : ¬ p value = true := fun holds => by simpa using (exact a).mpr ⟨value, live, holds⟩
    simp [failing]
  | cons a rest ih =>
    obtain ⟨fresh, nodup⟩ := List.nodup_cons.mp nodup
    obtain ⟨value, live, holds⟩ := (exact a).mp (by simp)
    have fewer := ih (arena.free a) nodup (by
      intro b
      by_cases same : b = a
      · subst b
        simp [fresh]
      · simpa [same] using exact b)
    have freed := sum_free live fun value => if p value then 1 else 0
    simp only [count, holds, if_true] at fewer freed ⊢
    simp only [List.length_cons]
    omega

theorem length_le_size {arena : Arena α} {addresses : List Addr} (nodup : addresses.Nodup)
    (live : ∀ a ∈ addresses, (arena.get? a).isSome) : addresses.length ≤ arena.size := by
  have below : addresses ⊆ List.range arena.size := by
    intro a member
    obtain ⟨value, held⟩ := Option.isSome_iff_exists.mp (live a member)
    exact List.mem_range.mpr (lt_size held)
  simpa using (List.subperm_of_subset nodup below).length_le

section Fold
variable (f : α → α)

/-- Changes the cells at several addresses one after the other. -/
def modifyAll (arena : Arena α) (addresses : List Addr) : Arena α :=
  addresses.foldl (fun arena a => arena.modify a f) arena

@[simp] theorem modifyAll_nil (arena : Arena α) : arena.modifyAll f [] = arena := rfl

@[simp] theorem modifyAll_cons (arena : Arena α) (a : Addr) (rest : List Addr) :
    arena.modifyAll f (a :: rest) = (arena.modify a f).modifyAll f rest := rfl

theorem get?_modifyAll {addresses : List Addr} (nodup : addresses.Nodup) (arena : Arena α) (b : Addr) :
    (arena.modifyAll f addresses).get? b = if b ∈ addresses then (arena.get? b).map f else arena.get? b := by
  induction addresses generalizing arena with
  | nil => simp
  | cons a rest ih =>
    obtain ⟨fresh, nodup⟩ := List.nodup_cons.mp nodup
    rw [modifyAll_cons, ih nodup, get?_modify]
    by_cases same : b = a
    · subst b
      simp [fresh]
    · simp [same, Ne.symm same]

@[simp] theorem size_modifyAll (arena : Arena α) (addresses : List Addr) :
    (arena.modifyAll f addresses).size = arena.size := by
  induction addresses generalizing arena with
  | nil => rfl
  | cons a rest ih => rw [modifyAll_cons, ih, size_modify]

theorem map_modifyAll (g : α → β) (f' : β → β) {addresses : List Addr} (nodup : addresses.Nodup) (arena : Arena α)
    (agree : ∀ a ∈ addresses, ∀ value, arena.get? a = some value → g (f value) = f' (g value)) :
    (arena.modifyAll f addresses).map g = (arena.map g).modifyAll f' addresses := by
  apply ext_get? (by simp)
  intro b
  rw [get?_map, get?_modifyAll f nodup, get?_modifyAll f' nodup, get?_map]
  split
  next member =>
    cases held : arena.get? b with
    | none => rfl
    | some value => exact congrArg some (agree b member value held)
  next => rfl

/-- Each changed cell contributes its own growth to a sum. -/
theorem sum_modifyAll (arena : Arena α) (g : α → Nat) (growth : Addr → Nat) {addresses : List Addr}
    (nodup : addresses.Nodup) (grows : ∀ a ∈ addresses, ∃ value, arena.get? a = some value ∧ g (f value) = g value + growth a) :
    (arena.modifyAll f addresses).sum g = arena.sum g + (addresses.map growth).sum := by
  induction addresses generalizing arena with
  | nil => rfl
  | cons a rest ih =>
    obtain ⟨fresh, nodup⟩ := List.nodup_cons.mp nodup
    obtain ⟨value, live, grown⟩ := grows a (by simp)
    have later := ih (arena.modify a f) nodup (by
      intro b member
      obtain ⟨current, found, grown⟩ := grows b (List.mem_cons_of_mem a member)
      refine ⟨current, ?_, grown⟩
      rw [get?_modify, if_neg (by rintro rfl; exact fresh member), found])
    have first := sum_put live g (f value)
    rw [modifyAll_cons, later, modify_eq live, List.map_cons, List.sum_cons]
    omega

theorem free_modifyAll {addresses : List Addr} (nodup : addresses.Nodup) {a : Addr} (outside : a ∉ addresses)
    (arena : Arena α) : (arena.free a).modifyAll f addresses = (arena.modifyAll f addresses).free a := by
  apply ext_get? (by simp)
  intro b
  rw [get?_modifyAll f nodup]
  by_cases same : b = a
  · subst b
    simp [outside]
  · simp [same, get?_modifyAll f nodup]

end Fold
section Renamed

/-- The same values under other addresses. -/
structure Renamed (names : Addr → Addr) (arena arena' : Arena α) : Prop where
  named : ∀ a value, arena.get? a = some value → arena'.get? (names a) = some value
  apart : ∀ a b, (arena.get? a).isSome = true → (arena.get? b).isSome = true → names a = names b → a = b
  counts : ∀ p, arena'.count p = arena.count p

variable {names : Addr → Addr} {arena arena' : Arena α}

theorem Renamed.refl (arena : Arena α) : Renamed id arena arena :=
  ⟨fun _ _ live => live, fun _ _ _ _ same => same, fun _ => rfl⟩

theorem Renamed.live (renamed : Renamed names arena arena') {a : Addr} (live : (arena.get? a).isSome = true) :
    (arena'.get? (names a)).isSome = true := by
  obtain ⟨value, held⟩ := Option.isSome_iff_exists.mp live
  rw [renamed.named a value held]
  rfl

theorem Renamed.alloc (renamed : Renamed names arena arena') (value : α) :
    Renamed (Function.update names arena.size arena'.size) (arena.alloc value) (arena'.alloc value) := by
  have below : ∀ a, (arena.get? a).isSome = true → names a ≠ arena'.size := by
    intro a live
    obtain ⟨value, held⟩ := Option.isSome_iff_exists.mp (renamed.live live)
    exact Nat.ne_of_lt (lt_size held)
  constructor
  · intro a held found
    rcases of_alloc found with ⟨rfl, rfl⟩ | before
    · rw [Function.update_self, get?_alloc_self]
    · rw [Function.update_of_ne (Nat.ne_of_lt (lt_size before))]
      exact get?_alloc_of_live (renamed.named a held before) value
  · intro a b live live' same
    rw [get?_alloc] at live live'
    by_cases new : a = arena.size <;> by_cases new' : b = arena.size
    · rw [new, new']
    · rw [if_neg new'] at live'
      rw [new, Function.update_self, Function.update_of_ne new'] at same
      exact absurd same.symm (below b live')
    · rw [if_neg new] at live
      rw [new', Function.update_self, Function.update_of_ne new] at same
      exact absurd same (below a live)
    · rw [if_neg new] at live
      rw [if_neg new'] at live'
      rw [Function.update_of_ne new, Function.update_of_ne new'] at same
      exact renamed.apart a b live live' same
  · intro p
    rw [count_alloc, count_alloc, renamed.counts]

theorem Renamed.free (renamed : Renamed names arena arena') {a : Addr} (live : (arena.get? a).isSome = true) :
    Renamed names (arena.free a) (arena'.free (names a)) := by
  obtain ⟨value, held⟩ := Option.isSome_iff_exists.mp live
  have other : ∀ b, (arena.get? b).isSome = true → a ≠ b → names a ≠ names b :=
    fun b live' different same => different (renamed.apart a b live live' same)
  constructor
  · intro b value found
    obtain ⟨different, before⟩ := of_free found
    rw [get?_free, if_neg (other b (by rw [before]; rfl) different)]
    exact renamed.named b value before
  · intro b c live live' same
    have before : ∀ b, ((arena.free a).get? b).isSome = true → (arena.get? b).isSome = true := by
      intro b live
      obtain ⟨value, found⟩ := Option.isSome_iff_exists.mp live
      rw [(of_free found).2]
      rfl
    exact renamed.apart b c (before b live) (before c live') same
  · intro p
    have fewer := count_free held p
    have fewer' := count_free (renamed.named a value held) p
    have counted := renamed.counts p
    omega

/-- A value that comes and goes leaves no trace. -/
theorem Renamed.spent (renamed : Renamed names arena arena') (value : α) :
    Renamed names arena ((arena'.alloc value).free arena'.size) := by
  constructor
  · intro a held live
    have before := renamed.named a held live
    rw [get?_free_ne _ (Nat.ne_of_lt (lt_size before))]
    exact get?_alloc_of_live before value
  · exact renamed.apart
  · intro p
    have fewer := count_free (get?_alloc_self arena' value) p
    rw [count_alloc, renamed.counts] at fewer
    omega

end Renamed

end Arena
end Memory
