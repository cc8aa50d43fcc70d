import Passpoint.Anqp.Kind
import Passpoint.Octets

/-!
What a network has answered to a query: at most one payload for each kind of element, in the order
in which the kinds first came. Payloads stay opaque.
-/

namespace Passpoint.Anqp

structure Answer where
  kind : Kind
  payload : Octets
  deriving DecidableEq, Repr

/-- The answers after one more: a kind that is there keeps its place and takes the new payload. -/
def putAnswer (a : Answer) : List Answer → List Answer
  | [] => [a]
  | b :: bs => if b.kind = a.kind then a :: bs else b :: putAnswer a bs

theorem mem_kinds_putAnswer (a : Answer) (k : Kind) (bs : List Answer) :
    k ∈ (putAnswer a bs).map Answer.kind ↔ k = a.kind ∨ k ∈ bs.map Answer.kind := by
  induction bs with
  | nil => simp [putAnswer]
  | cons b bs ih =>
    by_cases h : b.kind = a.kind
    · simp [putAnswer, h]
    · simp only [putAnswer, h, if_false, List.map_cons, List.mem_cons, ih]
      exact or_left_comm

theorem nodup_putAnswer (a : Answer) (bs : List Answer) (h : (bs.map Answer.kind).Nodup) :
    ((putAnswer a bs).map Answer.kind).Nodup := by
  induction bs with
  | nil => simp [putAnswer]
  | cons b bs ih =>
    obtain ⟨hb, ht⟩ := List.nodup_cons.mp h
    by_cases hk : b.kind = a.kind
    · simp only [putAnswer, if_pos hk, List.map_cons, List.nodup_cons]
      exact ⟨hk ▸ hb, ht⟩
    · simp only [putAnswer, if_neg hk, List.map_cons, List.nodup_cons, mem_kinds_putAnswer]
      exact ⟨fun hm => hm.elim hk hb, ih ht⟩

structure Answers where
  toList : List Answer
  nodup : (toList.map Answer.kind).Nodup
  deriving DecidableEq

namespace Answers

def empty : Answers := ⟨[], by simp⟩

def size (as : Answers) : Nat := as.toList.length

def put (as : Answers) (a : Answer) : Answers :=
  ⟨putAnswer a as.toList, nodup_putAnswer a as.toList as.nodup⟩

def ofList (l : List Answer) : Answers := l.foldl put empty

end Answers

end Passpoint.Anqp
