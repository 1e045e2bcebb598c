import Tinygame.Base.Answers

/-!
# The message queue of a session

`module/net/socket/queue.js`: a queue over two arrays. `shift` reads `head` from `offset` on and
takes `tail` over when `head` is used up.
-/

namespace Tinygame
variable {μ : Type}

theorem Queue.nothing_inside : 0 ≤ ([] : List μ).length := Nat.zero_le _

structure Queue (μ : Type) where
  tail : List μ := []
  head : List μ := []
  offset : Nat := 0
  inside : offset ≤ head.length := by exact Queue.nothing_inside

namespace Queue

/-- The item taken out and the queue without it. -/
def shift (q : Queue μ) : Option μ × Queue μ :=
  if h : q.offset = q.head.length then
    match q.tail with
    | [] => (none, {})
    | first :: rest => (some first, { head := first :: rest, offset := 1, inside := Nat.succ_le_succ (Nat.zero_le _) })
  else
    have below : q.offset < q.head.length := Nat.lt_of_le_of_ne q.inside h
    (some q.head[q.offset], { q with offset := q.offset + 1, inside := below })

def push (q : Queue μ) (item : μ) : Queue μ := { q with tail := q.tail ++ [item] }

def getLength (q : Queue μ) : Nat := q.head.length - q.offset + q.tail.length

def first (q : Queue μ) : Option μ := if q.offset = q.head.length then q.tail[0]? else q.head[q.offset]?

/-- The items in the order they leave the queue. -/
def items (q : Queue μ) : List μ := q.head.drop q.offset ++ q.tail

@[simp] theorem items_empty : ({} : Queue μ).items = [] := rfl

@[simp] theorem items_push (q : Queue μ) (item : μ) : (q.push item).items = q.items ++ [item] := by
  simp [push, items]

theorem shift_eq (q : Queue μ) : (q.shift).1 = q.items.head? ∧ (q.shift).2.items = q.items.tail := by
  unfold shift
  split
  · rename_i used
    have rest : q.items = q.tail := by simp [items, used]
    rw [rest]
    cases q.tail with
    | nil => exact ⟨rfl, rfl⟩
    | cons first more => exact ⟨rfl, by simp [items]⟩
  · rename_i left
    have below : q.offset < q.head.length := Nat.lt_of_le_of_ne q.inside left
    have next : q.items = q.head[q.offset] :: (q.head.drop (q.offset + 1) ++ q.tail) := by
      rw [items, List.drop_eq_getElem_cons below, List.cons_append]
    rw [next]
    exact ⟨rfl, rfl⟩

@[simp] theorem items_shift (q : Queue μ) : q.shift.2.items = q.items.tail := (shift_eq q).2

@[simp] theorem getLength_eq (q : Queue μ) : q.getLength = q.items.length := by
  simp [getLength, items]

@[simp] theorem first_eq (q : Queue μ) : q.first = q.items.head? := by
  unfold first
  split
  · rename_i used
    have rest : q.items = q.tail := by simp [items, used]
    rw [rest, List.head?_eq_getElem?]
  · rename_i left
    have below : q.offset < q.head.length := Nat.lt_of_le_of_ne q.inside left
    rw [items, List.drop_eq_getElem_cons below, List.cons_append, List.head?_cons, List.getElem?_eq_getElem below]

/-! ### Any operations -/

inductive Op (μ : Type) where
  | push (item : μ)
  | shift
  | first
  | getLength
  deriving DecidableEq

/-- What an operation returns. What `push` returns is the length of `tail`, which says nothing about the queue. -/
inductive Answer (μ : Type) where
  | pushed
  | item (found : Option μ)
  | length (n : Nat)
  deriving DecidableEq

def perform (q : Queue μ) : Op μ → Answer μ × Queue μ
  | .push item => (.pushed, q.push item)
  | .shift => (.item q.shift.1, q.shift.2)
  | .first => (.item q.first, q)
  | .getLength => (.length q.getLength, q)

/-- A plain list as a queue: items come in at its end and leave at its front. -/
def performPlain (items : List μ) : Op μ → Answer μ × List μ
  | .push item => (.pushed, items ++ [item])
  | .shift => (.item items.head?, items.tail)
  | .first => (.item items.head?, items)
  | .getLength => (.length items.length, items)

theorem perform_refines : Refines (fun q items => q.items = items) (perform (μ := μ)) performPlain where
  answer := by
    rintro q items op rfl
    cases op with
    | push item => rfl
    | shift => exact congrArg Answer.item (shift_eq q).1
    | first => exact congrArg Answer.item (first_eq q)
    | getLength => exact congrArg Answer.length (getLength_eq q)
  next := by
    rintro q items op rfl
    cases op with
    | push item => exact items_push q item
    | shift => exact items_shift q
    | first => rfl
    | getLength => rfl

/-- A new queue answers any operations as a plain list does. -/
theorem answers_plain (ops : List (Op μ)) : answers perform ({} : Queue μ) ops = answers performPlain [] ops :=
  perform_refines.answers_eq items_empty ops

end Queue
end Tinygame
