import StepConditions.Payload.Bits

/-!
# Canonical prefix codes

A code is given by the length of each symbol's word, zero for a symbol without one. Words of one
length are consecutive numbers in the order of their symbols, and follow those of smaller length.
-/
namespace StepConditions.Payload

def longestWord : Nat := 15

/-- How many symbols have words of length `1`, `2`, …, and the symbols in the order of their
words. -/
structure PrefixCode where
  counts : List Nat
  symbols : Array Nat

namespace PrefixCode

def lengths : List Nat :=
  (List.range longestWord).map (· + 1)

def symbolsOf (wordLengths : List Nat) (length : Nat) : List Nat :=
  wordLengths.zipIdx.filterMap fun (l, symbol) => if l = length then some symbol else none

/-- The share of all words that the words of a code take up, in units of the longest. -/
def share (counts : List Nat) : Nat :=
  counts.foldl (fun total n => 2 * total + n) 0

/-- The code of the lengths. It has to use up all words; `sparse` admits a code of at most one
symbol as well. -/
def ofLengths? (sparse : Bool) (wordLengths : List Nat) : Option PrefixCode :=
  let symbols := lengths.map (symbolsOf wordLengths)
  let counts := symbols.map List.length
  let sorted := symbols.flatten
  if share counts = 1 <<< longestWord || (sparse && sorted.length ≤ 1) then
    some ⟨counts, sorted.toArray⟩
  else none

/-- Reads one word: `word` is what has been read, `first` the first word of its length and `index`
the count of shorter words. -/
def readFrom? (symbols : Array Nat) (word first index : Nat) :
    List Nat → BitStream → Option (Nat × BitStream)
  | [], _ => none
  | n :: counts, s =>
    match s.next? with
    | none => none
    | some (b, s) =>
      let word := 2 * word + b.toNat
      let first := 2 * first
      if word < first + n then (symbols[index + (word - first)]?).map (·, s)
      else readFrom? symbols word (first + n) (index + n) counts s

def read? (code : PrefixCode) (s : BitStream) : Option (Nat × BitStream) :=
  readFrom? code.symbols 0 0 0 code.counts s

end PrefixCode

end StepConditions.Payload
