import ServerGame.Lib.Checked

/-!
# Objects with an identity

A `Ref` is the address of an object and a `Heap` what lies at each address.
Two objects with equal fields still differ, a pointer kept in two places reads
the same object, and a new object has an address no older pointer holds.
-/

namespace ServerGame.Lib

/-- An address. The tag keeps pointers to objects of two kinds apart. -/
@[ext] structure Ref {κ : Type u} (kind : κ) where
  addr : Nat

instance {κ : Type u} {kind : κ} : DecidableEq (Ref kind) := fun r r' =>
  decidable_of_iff (r.addr = r'.addr) ⟨Ref.ext, congrArg Ref.addr⟩

structure Heap {κ : Type u} (kind : κ) (α : Type v) where
  next : Nat
  get : Ref kind → α

namespace Heap

variable {κ : Type u} {kind : κ} {α : Type v}

def empty [Inhabited α] : Heap kind α := ⟨0, fun _ => default⟩

def fresh (h : Heap kind α) : Ref kind := ⟨h.next⟩

def alloc (h : Heap kind α) (a : α) : Heap kind α where
  next := h.next + 1
  get r := if r = h.fresh then a else h.get r

def modify (h : Heap kind α) (r : Ref kind) (f : α → α) : Heap kind α where
  next := h.next
  get r' := if r' = r then f (h.get r) else h.get r'

def Allocated (h : Heap kind α) (r : Ref kind) : Prop := r.addr < h.next

@[simp] theorem next_modify (h : Heap kind α) (r : Ref kind) (f : α → α) :
    (h.modify r f).next = h.next := rfl

@[simp] theorem get_alloc_fresh (h : Heap kind α) (a : α) : (h.alloc a).get h.fresh = a := by
  simp [alloc]

theorem get_alloc_of_ne {h : Heap kind α} {a : α} {r : Ref kind} (hr : r ≠ h.fresh) :
    (h.alloc a).get r = h.get r := by
  simp [alloc, hr]

@[simp] theorem get_modify_self (h : Heap kind α) (r : Ref kind) (f : α → α) :
    (h.modify r f).get r = f (h.get r) := by
  simp [modify]

theorem get_modify_of_ne {h : Heap kind α} {r r' : Ref kind} {f : α → α} (hr : r' ≠ r) :
    (h.modify r f).get r' = h.get r' := by
  simp [modify, hr]

theorem get_modify (h : Heap kind α) (r r' : Ref kind) (f : α → α) :
    (h.modify r f).get r' = if r' = r then f (h.get r) else h.get r' := rfl

theorem get_modify_field {h : Heap kind α} {r r' : Ref kind} {f : α → α} {field : α → β}
    (hf : ∀ a, field (f a) = field a) : field ((h.modify r f).get r') = field (h.get r') := by
  rw [get_modify]
  split
  · next he => rw [hf, he]
  · rfl

theorem modify_comm (h : Heap kind α) (r r' : Ref kind) {f g : α → α}
    (hfg : r = r' → ∀ a, g (f a) = f (g a)) :
    (h.modify r f).modify r' g = (h.modify r' g).modify r f := by
  have hget : ((h.modify r f).modify r' g).get = ((h.modify r' g).modify r f).get := by
    funext k
    simp only [get_modify]
    by_cases hr : r = r'
    · by_cases hk : k = r' <;> simp [hk, hr, hfg hr]
    · by_cases hk : k = r' <;> simp [hk, hr, Ne.symm hr]
  exact congrArg (Heap.mk h.next) hget

theorem Allocated.ne_fresh {h : Heap kind α} {r : Ref kind} (hr : h.Allocated r) : r ≠ h.fresh := by
  rintro rfl
  exact absurd hr (Nat.lt_irrefl h.next)

theorem Allocated.get_alloc {h : Heap kind α} {r : Ref kind} {a : α} (hr : h.Allocated r) :
    (h.alloc a).get r = h.get r := get_alloc_of_ne hr.ne_fresh

theorem allocated_fresh (h : Heap kind α) (a : α) : (h.alloc a).Allocated h.fresh :=
  Nat.lt_succ_self h.next

theorem Allocated.alloc {h : Heap kind α} {r : Ref kind} (hr : h.Allocated r) (a : α) :
    (h.alloc a).Allocated r := Nat.lt_succ_of_lt hr

end Heap

end ServerGame.Lib
