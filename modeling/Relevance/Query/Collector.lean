import Relevance.Fault
import Relevance.Index.Document

set_option autoImplicit false

namespace Relevance

/-- A document that matches, with its score if the collector asked for it. -/
structure Match where
  doc : DocId
  score : Option Float32

structure Collector (α : Type) where
  needsScore : Bool
  collect : α → Match → α

/-- The bit that is set in the bits of a single with a minus sign. -/
def signBit : Nat := 0x80000000

/-- The place of a number in the order of all singles, which sets minus zero below zero. -/
def orderKey (x : Float32) : Int :=
  let bits := x.toBits.toNat
  if bits < signBit then bits else signBit - 1 - bits

structure ScoredDoc where
  doc : DocId
  score : Float32
  deriving DecidableEq

/-- Memory for a document with its score, in bytes. -/
def ScoredDoc.byteSize : Nat := 16

/-- The most memory that can be set aside at once, in bytes. -/
def maxBytes : Nat := 0x7fffffffffffffff

/-- Higher scores come first, and of equal scores the smaller number. -/
def ScoredDoc.rank (a b : ScoredDoc) : Ordering :=
  (compare (orderKey b.score) (orderKey a.score)).then (compare a.doc b.doc)

abbrev Ranking := List ScoredDoc

namespace Ranking

def place (doc : ScoredDoc) : Ranking → Ranking
  | [] => [doc]
  | first :: rest =>
    if doc.rank first = .lt then doc :: first :: rest else first :: place doc rest

/-- Takes in a document as long as there is room, and then only in place of the last one if it comes
before that. -/
def enlist (limit : Nat) (doc : ScoredDoc) (ranking : Ranking) : Ranking :=
  if ranking.length < limit then place doc ranking
  else
    match ranking.getLast? with
    | some worst => if doc.rank worst = .lt then place doc ranking.dropLast else ranking
    | none => ranking

/-- Takes in a match, keeping at most `limit`. Matches without a score, or with one that is not a
number, are passed over. -/
def keep (limit : Nat) (ranking : Ranking) (found : Match) : Ranking :=
  match found.score with
  | some score => if score.isNaN then ranking else enlist limit ⟨found.doc, score⟩ ranking
  | none => ranking

end Ranking

namespace Collector

def count : Collector Nat :=
  ⟨false, fun total _ => total + 1⟩

def ranking (limit : Nat) : Collector Ranking :=
  ⟨true, Ranking.keep limit⟩

/-- The best matches, with memory set aside for all of them. -/
def best (limit : Nat) : Except Fault (Collector Ranking) :=
  if limit * ScoredDoc.byteSize ≤ maxBytes then .ok (ranking limit) else .error .capacityOverflow

def both {α β : Type} (a : Collector α) (b : Collector β) : Collector (α × β) :=
  ⟨a.needsScore || b.needsScore, fun state found =>
    (a.collect state.1 found, b.collect state.2 found)⟩

end Collector

end Relevance
