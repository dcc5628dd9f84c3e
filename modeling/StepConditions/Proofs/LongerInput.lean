import Mathlib
import StepConditions.Proofs.Member

/-!
# Reading from a longer input

A reader that comes to an end has not looked at what is behind it. With more bytes behind its input
it reads the same and leaves these bytes behind the rest. This holds of every part of a deflate
stream, and so of the whole one.
-/
namespace StepConditions.Payload
variable {α β : Type} {k fuel fuel' : ℕ} {bytes front rest : List UInt8}

lemma takeBytes?_eq_some_iff :
    takeBytes? k bytes = some (front, rest) ↔ front.length = k ∧ bytes = front ++ rest := by
  constructor
  · intro h
    simp only [takeBytes?] at h
    split at h
    next hk =>
      cases h
      exact ⟨hk, (List.take_append_drop k bytes).symm⟩
    next => cases h
  · rintro ⟨hk, rfl⟩
    exact takeBytes?_append hk

lemma takeBytes?_append_of_eq_some (h : takeBytes? k bytes = some (front, rest))
    (more : List UInt8) : takeBytes? k (bytes ++ more) = some (front, rest ++ more) := by
  obtain ⟨hk, rfl⟩ := takeBytes?_eq_some_iff.mp h
  exact takeBytes?_eq_some_iff.mpr ⟨hk, List.append_assoc ..⟩

lemma takeNumber?_append_of_eq_some {n : ℕ} (h : takeNumber? k bytes = some (n, rest))
    (more : List UInt8) : takeNumber? k (bytes ++ more) = some (n, rest ++ more) := by
  obtain ⟨⟨front, rest⟩, hfront, heq⟩ := Option.map_eq_some_iff.mp h
  cases heq
  simp only [takeNumber?, takeBytes?_append_of_eq_some hfront more, Option.map_some]

namespace BitStream

/-- The stream with more bytes behind it. -/
def followedBy (s : BitStream) (more : List UInt8) : BitStream :=
  ⟨s.begun, s.bytes ++ more⟩

lemma size_le_size_followedBy (s : BitStream) (more : List UInt8) :
    s.size ≤ (s.followedBy more).size := by
  simp only [size, followedBy, List.length_append]
  omega

/-- What the first reader reads of a stream, the second one reads of every longer stream, and it
leaves so much more. -/
def Extends (f g : BitStream → Option (α × BitStream)) : Prop :=
  ∀ ⦃s a s'⦄, f s = some (a, s') → ∀ more, g (s.followedBy more) = some (a, s'.followedBy more)

namespace Extends
variable {f f' : BitStream → Option (α × BitStream)}

lemma of_none (g : BitStream → Option (α × BitStream)) : Extends (fun _ => none) g := by
  intro s a s' h
  cases h

/-- A reader that takes nothing. -/
lemma const (o : Option α) : Extends (fun s => o.map (·, s)) (fun s => o.map (·, s)) := by
  intro s a s' h more
  obtain ⟨b, rfl, heq⟩ := Option.map_eq_some_iff.mp h
  cases heq
  rfl

lemma map (h : Extends f f') (g : α → β) :
    Extends (fun s => (f s).map fun p => (g p.1, p.2))
      (fun s => (f' s).map fun p => (g p.1, p.2)) := by
  intro s b s' hs more
  obtain ⟨⟨a, t⟩, ha, heq⟩ := Option.map_eq_some_iff.mp hs
  cases heq
  simp only [h ha more, Option.map_some]

end Extends

lemma extends_next? : Extends next? next? := by
  intro s b s' h more
  obtain ⟨begun, bytes⟩ := s
  cases begun with
  | cons b bs =>
    cases h
    rfl
  | nil =>
    cases bytes with
    | nil => cases h
    | cons x xs =>
      cases h
      rfl

lemma extends_number? (n : ℕ) : Extends (number? n) (number? n) := by
  induction n with
  | zero => exact .const (some 0)
  | succ n ih =>
    intro s v s' h more
    cases hb : s.next? with
    | none => simp [number?, hb] at h
    | some p =>
      simp only [number?, hb] at h
      simp only [number?, extends_next? hb more]
      exact ih.map (fun v => p.1.toNat + 2 * v) h more

end BitStream

open BitStream

lemma PrefixCode.extends_readFrom? (symbols : Array ℕ) (counts : List ℕ) (word first index : ℕ) :
    Extends (readFrom? symbols word first index counts)
      (readFrom? symbols word first index counts) := by
  induction counts generalizing word first index with
  | nil => exact .of_none _
  | cons n counts ih =>
    intro s symbol s' h more
    cases hb : s.next? with
    | none => simp [readFrom?, hb] at h
    | some p =>
      simp only [readFrom?, hb] at h
      simp only [readFrom?, extends_next? hb more]
      split at h
      next hlt =>
        rw [if_pos hlt]
        exact Extends.const _ h more
      next hlt =>
        rw [if_neg hlt]
        exact ih _ _ _ h more

lemma PrefixCode.extends_read? (code : PrefixCode) : Extends code.read? code.read? :=
  extends_readFrom? code.symbols code.counts 0 0 0

namespace Deflate

lemma extends_tableValue? (table : List (ℕ × ℕ)) (symbol : ℕ) :
    Extends (tableValue? table symbol) (tableValue? table symbol) := by
  unfold tableValue?
  cases table[symbol]? with
  | none => exact .of_none _
  | some entry => exact (extends_number? entry.2).map fun v => entry.1 + v

lemma extends_readItem? (codes : Codes) : Extends (readItem? codes) (readItem? codes) := by
  intro s item s' h more
  cases hs : codes.literals.read? s with
  | none => simp [readItem?, hs] at h
  | some p =>
    simp only [readItem?, hs] at h
    simp only [readItem?, codes.literals.extends_read? hs more]
    split at h
    next hliteral =>
      cases h
      rw [if_pos hliteral]
    next hliteral =>
      rw [if_neg hliteral]
      split at h
      next hend =>
        cases h
        rw [if_pos hend]
      next hend =>
        rw [if_neg hend]
        cases hlength : tableValue? lengthTable (p.1 - 257) p.2 with
        | none => simp [hlength] at h
        | some q =>
          simp only [hlength] at h
          simp only [extends_tableValue? _ _ hlength more]
          cases hsymbol : codes.distances.read? q.2 with
          | none => simp [hsymbol] at h
          | some r =>
            simp only [hsymbol] at h
            simp only [codes.distances.extends_read? hsymbol more]
            exact (extends_tableValue? distanceTable r.1).map (Item.copy q.1) h more

/-- The fuel may grow with the stream. -/
lemma extends_readItems? (codes : Codes) (out : Array UInt8) (hf : fuel ≤ fuel') :
    Extends (readItems? codes out fuel) (readItems? codes out fuel') := by
  induction fuel generalizing fuel' out with
  | zero => exact .of_none _
  | succ fuel ih =>
    obtain ⟨fuel', rfl⟩ := Nat.exists_eq_add_of_le' (Nat.succ_pos fuel |>.trans_le hf)
    have hf : fuel ≤ fuel' := Nat.le_of_succ_le_succ hf
    intro s a s' h more
    cases hitem : readItem? codes s with
    | none => simp [readItems?, hitem] at h
    | some p =>
      obtain ⟨item, t⟩ := p
      simp only [readItems?, hitem] at h
      simp only [readItems?, extends_readItem? codes hitem more]
      cases item with
      | literal b => exact ih _ hf h more
      | copy length distance => exact ih _ hf h more
      | stop =>
        cases h
        rfl

lemma extends_readItems?_size (codes : Codes) (out : Array UInt8) :
    Extends (fun s => readItems? codes out (s.size + 1) s)
      (fun s => readItems? codes out (s.size + 1) s) := by
  intro s a s' h more
  have hf := Nat.succ_le_succ (s.size_le_size_followedBy more)
  exact extends_readItems? codes out hf h more

lemma extends_readThrees? (n : ℕ) : Extends (readThrees? n) (readThrees? n) := by
  induction n with
  | zero => exact .const (some [])
  | succ n ih =>
    intro s vs s' h more
    cases hv : s.number? 3 with
    | none => simp [readThrees?, hv] at h
    | some p =>
      simp only [readThrees?, hv] at h
      simp only [readThrees?, extends_number? 3 hv more]
      exact ih.map (fun vs => p.1 :: vs) h more

lemma extends_runOf? (lengths : Array ℕ) (symbol : ℕ) :
    Extends (runOf? lengths symbol) (runOf? lengths symbol) := by
  unfold runOf?
  split
  · cases lengths.back? with
    | none => exact .of_none _
    | some l => exact (extends_number? 2).map fun v => List.replicate (v + 3) l
  · exact (extends_number? 3).map fun v => List.replicate (v + 3) 0
  · exact (extends_number? 7).map fun v => List.replicate (v + 11) 0
  · exact .const (some _)

lemma extends_readLengths? (code : PrefixCode) (count : ℕ) (lengths : Array ℕ) (fuel : ℕ) :
    Extends (readLengths? code count lengths fuel) (readLengths? code count lengths fuel) := by
  induction fuel generalizing lengths with
  | zero => exact .of_none _
  | succ fuel ih =>
    intro s ls s' h more
    rw [readLengths?] at h ⊢
    split at h
    next hlt =>
      rw [if_pos hlt]
      cases hs : code.read? s with
      | none => simp [hs] at h
      | some p =>
        simp only [hs] at h
        simp only [code.extends_read? hs more]
        cases hrun : runOf? lengths p.1 p.2 with
        | none => simp [hrun] at h
        | some q =>
          simp only [hrun] at h
          simp only [extends_runOf? _ _ hrun more]
          exact ih _ h more
    next hlt =>
      rw [if_neg hlt]
      split at h
      next hend =>
        cases h
        rw [if_pos hend]
      next => cases h

lemma extends_readCodes? : Extends readCodes? readCodes? := by
  intro s codes s' h more
  simp only [readCodes?, Option.bind_eq_bind, Option.bind_eq_some_iff, Prod.exists] at h ⊢
  obtain ⟨l, s₁, hl, d, s₂, hd, n, s₃, hn, u, hlimit, given, s₄, hgiven, code, hcode, lengths, s₅,
    hlengths, codes', hcodes, heq⟩ := h
  cases heq
  exact ⟨l, _, extends_number? 5 hl more, d, _, extends_number? 5 hd more, n, _,
    extends_number? 4 hn more, u, hlimit, given, _, extends_readThrees? _ hgiven more, code, hcode,
    lengths, _, extends_readLengths? _ _ _ _ hlengths more, codes, hcodes, rfl⟩

lemma extends_readStored? (out : Array UInt8) : Extends (readStored? out) (readStored? out) := by
  intro s a s' h more
  have hbytes : (s.followedBy more).align.bytes = s.align.bytes ++ more := rfl
  simp only [readStored?, hbytes] at h ⊢
  cases hcount : takeNumber? 2 s.align.bytes with
  | none => simp [hcount] at h
  | some p =>
    simp only [hcount] at h
    simp only [takeNumber?_append_of_eq_some hcount more]
    cases hcomplement : takeNumber? 2 p.2 with
    | none => simp [hcomplement] at h
    | some q =>
      simp only [hcomplement] at h
      simp only [takeNumber?_append_of_eq_some hcomplement more]
      split at h
      next hsum =>
        obtain ⟨⟨block, rest⟩, hblock, heq⟩ := Option.map_eq_some_iff.mp h
        cases heq
        rw [if_pos hsum, takeBytes?_append_of_eq_some hblock more, Option.map_some]
        rfl
      next => cases h

lemma extends_readBlock? (type : ℕ) (out : Array UInt8) :
    Extends (readBlock? type out) (readBlock? type out) := by
  unfold readBlock?
  split
  · exact extends_readStored? out
  · cases Codes.ofLengths? fixedLiterals fixedDistances with
    | none => exact .of_none _
    | some codes => exact extends_readItems?_size codes out
  · intro s a s' h more
    cases hcodes : readCodes? s with
    | none => simp [hcodes] at h
    | some p =>
      simp only [hcodes] at h
      simp only [extends_readCodes? hcodes more]
      exact extends_readItems?_size p.1 out h more
  · exact .of_none _

lemma extends_readBlocks? (out : Array UInt8) (hf : fuel ≤ fuel') :
    Extends (readBlocks? out fuel) (readBlocks? out fuel') := by
  induction fuel generalizing fuel' out with
  | zero => exact .of_none _
  | succ fuel ih =>
    obtain ⟨fuel', rfl⟩ := Nat.exists_eq_add_of_le' (Nat.succ_pos fuel |>.trans_le hf)
    have hf : fuel ≤ fuel' := Nat.le_of_succ_le_succ hf
    intro s a s' h more
    cases hfinal : s.number? 1 with
    | none => simp [readBlocks?, hfinal] at h
    | some p =>
      simp only [readBlocks?, hfinal] at h
      simp only [readBlocks?, extends_number? 1 hfinal more]
      cases htype : p.2.number? 2 with
      | none => simp [htype] at h
      | some q =>
        simp only [htype] at h
        simp only [extends_number? 2 htype more]
        cases hblock : readBlock? q.1 out q.2 with
        | none => simp [hblock] at h
        | some r =>
          simp only [hblock] at h
          simp only [extends_readBlock? _ _ hblock more]
          split at h
          next hlast =>
            cases h
            rw [if_pos hlast]
          next hlast =>
            rw [if_neg hlast]
            exact ih _ hf h more

/-- A stream is read alike whatever is behind it. -/
theorem inflate?_append {out : List UInt8} (h : inflate? bytes = some (out, rest))
    (more : List UInt8) : inflate? (bytes ++ more) = some (out, rest ++ more) := by
  obtain ⟨⟨out, s⟩, hs, heq⟩ := Option.map_eq_some_iff.mp h
  cases heq
  have hf : bytes.length + 1 ≤ (bytes ++ more).length + 1 := by
    rw [List.length_append]
    omega
  have hmore : readBlocks? #[] ((bytes ++ more).length + 1) ⟨[], bytes ++ more⟩ =
      some (out, s.followedBy more) := extends_readBlocks? #[] hf hs more
  rw [inflate?, hmore, Option.map_some]
  rfl

end Deflate

end StepConditions.Payload
