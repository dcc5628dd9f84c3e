import Mathlib
import StepConditions.Json.Printer
import StepConditions.Json.Reader
import StepConditions.Proofs.Digits
import StepConditions.Proofs.Shape

/-!
# Documents read back from their text

A document without doubles that nests no deeper than the reader goes is read back from its compact
text, whatever characters are in its strings.
-/
namespace StepConditions.Json
open Numeric
variable {c : Char} {cs rest : List Char} {fuel d : ℕ}

/-- The text goes on behind a value, or ends there. -/
def Follows (rest : List Char) : Prop :=
  ∀ c ∈ rest.head?, c = ',' ∨ c = ']' ∨ c = '\x7d'

lemma Follows.noDigit (h : Follows rest) : NoDigit rest := by
  intro c hc
  rcases h c hc with rfl | rfl | rfl <;> rfl

lemma readFraction?_of_follows (h : Follows rest) : readFraction? rest = some (none, rest) := by
  cases rest with
  | nil => rfl
  | cons c rest => rcases h c rfl with rfl | rfl | rfl <;> rfl

lemma readPower?_of_follows (h : Follows rest) : readPower? rest = some (none, rest) := by
  cases rest with
  | nil => rfl
  | cons c rest => rcases h c rfl with rfl | rfl | rfl <;> rfl

lemma readLiteral?_intDigits (i : ℤ) (h : Follows rest) :
    readLiteral? (intDigits i ++ rest) =
      some (⟨decide (i < 0), digits i.natAbs, none, none⟩, rest) := by
  have hspan : spanDigits (digits i.natAbs ++ rest) = (digits i.natAbs, rest) :=
    spanDigits_append (fun _ => isDigit_of_mem_digits) h.noDigit
  obtain ⟨c, ds, hds, hc⟩ := exists_digits_eq_cons i.natAbs
  have hzero : ¬ c = '0' ∨ ds = [] := leading_zero hds
  rw [hds, List.cons_append] at hspan
  by_cases hi : i < 0
  · simp [readLiteral?, intDigits, hi, hds, hspan, hzero, readFraction?_of_follows h,
      readPower?_of_follows h]
  · have hne : c ≠ '-' := by
      rintro rfl
      cases hc
    simp [readLiteral?, intDigits, hi, hds, hne, hspan, hzero, readFraction?_of_follows h,
      readPower?_of_follows h]

lemma number?_intDigits (i : Whole) :
    Literal.number? ⟨decide (i.val < 0), digits i.val.natAbs, none, none⟩ = some (.whole i) := by
  have hzero : (decide (i.val < 0) && i.val.natAbs == 0) = false := by
    simp only [Bool.and_eq_false_iff, decide_eq_false_iff_not, beq_eq_false_iff_ne]
    omega
  simp [Literal.number?, Literal.whole?, digitsValue_digits, hzero, signed_natAbs, Number.ofInt?,
    i.low, i.high]

lemma readNumber?_whole (i : Whole) (h : Follows rest) :
    readNumber? ((Number.whole i).text ++ rest) = some (.whole i, rest) := by
  simp [readNumber?, Number.text, readLiteral?_intDigits i.val h, number?_intDigits i]

lemma readBase?_control : ∀ n < 0x20,
    readBase? 16 ['0', '0', hexDigit (n / 16), hexDigit (n % 16)] = some n := by
  decide

lemma readStringChar?_escapeChar (c : Char) (rest : List Char) :
    readStringChar? (escapeChar c ++ rest) = some (some c, rest) := by
  unfold escapeChar
  split
  next => rfl
  next => rfl
  next => rfl
  next => rfl
  next => rfl
  next => rfl
  next => rfl
  next hquote hslash _ _ _ _ _ =>
    split
    next hc =>
      have hlow : isLowSurrogate c.toNat = false := by
        simp [isLowSurrogate]
        omega
      have hhigh : isHighSurrogate c.toNat = false := by
        simp [isHighSurrogate]
        omega
      simp [readStringChar?, readEscape?, readUnicode?, readHex4?, readBase?_control c.toNat hc,
        hlow, hhigh, Char.ofNat_toNat]
    next hc => simp [readStringChar?, hc]

lemma readStringAux_escaped (acc s : List Char) (hf : s.length < fuel) :
    readStringAux acc fuel (s.flatMap escapeChar ++ '"' :: rest) =
      some (acc.reverse ++ s, rest) := by
  induction s generalizing acc fuel with
  | nil =>
    obtain ⟨fuel, rfl⟩ := Nat.exists_eq_add_of_lt hf
    simp [readStringAux, readStringChar?]
  | cons c s ih =>
    cases fuel with
    | zero => simp at hf
    | succ fuel =>
      have hs := ih (c :: acc) (Nat.lt_of_succ_lt_succ hf)
      rw [List.flatMap_cons, List.append_assoc, readStringAux, readStringChar?_escapeChar]
      simpa using hs

lemma length_le_length_escaped (s : List Char) : s.length ≤ (s.flatMap escapeChar).length := by
  induction s with
  | nil => simp
  | cons c s ih =>
    have hc : 1 ≤ (escapeChar c).length := by
      unfold escapeChar
      split <;> first | simp | (split <;> simp)
    rw [List.flatMap_cons, List.length_append, List.length_cons]
    omega

lemma readString?_escaped (s : String) (rest : List Char) :
    readString? (s.toList.flatMap escapeChar ++ '"' :: rest) = some (s, rest) := by
  have hf := length_le_length_escaped s.toList
  rw [readString?, readStringAux_escaped [] s.toList]
  · simp
  · rw [List.length_append]
    omega

lemma skipBlank_cons (h : isBlankChar c = false) : skipBlank (c :: cs) = c :: cs := by
  simp [skipBlank, h]

section
variable {j : Json} {items : List Json} {members : List (String × Json)}

lemma print_number (n : Number) : (number n).print = String.ofList n.text := by
  simp [print, write]

lemma writeItems_append_of (ih : ∀ j ∈ items, ∀ rest, write rest j = write [] j ++ rest)
    (first : Bool) (rest : List Char) :
    writeItems first rest items = writeItems first [] items ++ rest := by
  induction items generalizing first with
  | nil => rfl
  | cons j js ihs =>
    obtain ⟨hj, hjs⟩ := List.forall_mem_cons.mp ih
    rw [writeItems, writeItems, hj, hj (writeItems ..), ihs hjs]
    simp

lemma writeMembers_append_of (ih : ∀ m ∈ members, ∀ rest, write rest m.2 = write [] m.2 ++ rest)
    (first : Bool) (rest : List Char) :
    writeMembers first rest members = writeMembers first [] members ++ rest := by
  induction members generalizing first with
  | nil => rfl
  | cons m ms ihs =>
    obtain ⟨hm, hms⟩ := List.forall_mem_cons.mp ih
    rw [writeMembers, writeMembers, hm, hm (writeMembers ..), ihs hms]
    simp

/-- The text of a value does not depend on what it is written in front of. -/
lemma write_append (j : Json) : ∀ rest, write rest j = write [] j ++ rest := by
  induction j using Json.induction with
  | null => simp [write]
  | bool b => cases b <;> simp [write]
  | number n => simp [write]
  | string s => simp [write]
  | array items ih =>
    intro rest
    rw [write, write, writeItems_append_of ih, writeItems_append_of ih true [']']]
    simp
  | object members ih =>
    intro rest
    rw [write, write, writeMembers_append_of ih, writeMembers_append_of ih true ['\x7d']]
    simp

lemma writeItems_append (first : Bool) (rest : List Char) (items : List Json) :
    writeItems first rest items = writeItems first [] items ++ rest :=
  writeItems_append_of (fun j _ => write_append j) first rest

lemma writeMembers_append (first : Bool) (rest : List Char) (members : List (String × Json)) :
    writeMembers first rest members = writeMembers first [] members ++ rest :=
  writeMembers_append_of (fun m _ => write_append m.2) first rest

/-- A value begins with a character that is no blank and closes no array. -/
lemma exists_write_eq_cons (hj : j.floatFree = true) :
    ∃ c cs, write [] j = c :: cs ∧ isBlankChar c = false ∧ c ≠ ']' := by
  cases j with
  | null => exact ⟨'n', _, rfl, rfl, by decide⟩
  | bool b => cases b <;> exact ⟨_, _, rfl, rfl, by decide⟩
  | number n =>
    cases n with
    | whole i =>
      by_cases hi : i.val < 0
      · refine ⟨'-', digits i.val.natAbs, ?_, rfl, by decide⟩
        simp [write, Number.text, intDigits, hi]
      · obtain ⟨c, ds, hds, hc⟩ := exists_digits_eq_cons i.val.natAbs
        refine ⟨c, ds, ?_, ?_, ?_⟩
        · simp [write, Number.text, intDigits, hi, hds]
        · simp only [isBlankChar, Bool.or_eq_false_iff, beq_eq_false_iff_ne]
          refine ⟨⟨⟨?_, ?_⟩, ?_⟩, ?_⟩ <;> (rintro rfl; cases hc)
        · rintro rfl
          cases hc
    | float x => cases hj
  | string s => exact ⟨'"', _, rfl, rfl, by decide⟩
  | array items => exact ⟨'[', _, rfl, rfl, by decide⟩
  | object members => exact ⟨'\x7b', _, rfl, rfl, by decide⟩

lemma skipBlank_write (hj : j.floatFree = true) (rest : List Char) :
    skipBlank (write rest j) = write rest j := by
  obtain ⟨c, cs, hw, hc, -⟩ := exists_write_eq_cons hj
  rw [write_append, hw, List.cons_append, skipBlank_cons hc]

/-- Enough fuel and depth read the value back and leave the rest. -/
def ReadsBack (j : Json) : Prop :=
  ∀ rest fuel d, Follows rest → j.depth ≤ d → (write [] j).length ≤ fuel →
    readValueAux fuel d (write rest j) = some (j, rest)

lemma readValueAux_number (hc : c = '-' ∨ c.isDigit = true) :
    readValueAux (fuel + 1) d (c :: cs) =
      (readNumber? (c :: cs)).map fun (n, cs) => (number n, cs) := by
  rw [readValueAux]
  -- the character begins no other kind of value
  all_goals
    intros
    rename_i h
    cases h <;> rcases hc with h | h <;> cases h

lemma readsBack_number (i : Whole) : ReadsBack (number (.whole i)) := by
  intro rest fuel d hr _ hf
  have hn := readNumber?_whole i hr
  obtain ⟨c, cs, hw, hc⟩ : ∃ c cs, (Number.whole i).text = c :: cs ∧
      (c = '-' ∨ c.isDigit = true) := by
    by_cases hi : i.val < 0
    · exact ⟨'-', digits i.val.natAbs, if_pos hi, .inl rfl⟩
    · obtain ⟨c, ds, hds, hc⟩ := exists_digits_eq_cons i.val.natAbs
      exact ⟨c, ds, (if_neg hi).trans hds, .inr hc⟩
  rw [hw, List.cons_append] at hn
  cases fuel with
  | zero => simp [write, hw] at hf
  | succ fuel =>
    rw [write, hw, List.cons_append, readValueAux_number hc, hn]
    rfl

lemma readsBack_string (s : String) : ReadsBack (string s) := by
  intro rest fuel d _ _ hf
  cases fuel with
  | zero => simp [write, stringText] at hf
  | succ fuel => simp [write, stringText, readValueAux, readString?_escaped]

lemma writeItems_false_cons (j : Json) (js : List Json) (rest : List Char) :
    writeItems false rest (j :: js) = ',' :: writeItems true rest (j :: js) := rfl

lemma writeItems_true_cons (j : Json) (js : List Json) (rest : List Char) :
    writeItems true rest (j :: js) = write [] j ++ writeItems false rest js :=
  write_append j _

lemma follows_writeItems (js : List Json) (rest : List Char) :
    Follows (writeItems false (']' :: rest) js) := by
  cases js <;> simp [Follows, writeItems]

lemma readItemsAux_write (acc : List Json) (rest : List Char) (hne : items ≠ [])
    (hj : ∀ j ∈ items, j.ReadsBack ∧ j.floatFree = true ∧ j.depth ≤ d)
    (hf : (writeItems true [] items).length < fuel) :
    readItemsAux acc fuel d (writeItems true (']' :: rest) items) =
      some (acc.reverse ++ items, rest) := by
  induction items generalizing acc fuel with
  | nil => contradiction
  | cons j js ih =>
    obtain ⟨⟨hread, hfree, hdepth⟩, hjs⟩ := List.forall_mem_cons.mp hj
    cases fuel with
    | zero => simp at hf
    | succ fuel =>
      rw [writeItems_true_cons, List.length_append] at hf
      have hv := hread _ fuel d (follows_writeItems js rest) hdepth (by omega)
      rw [writeItems_true_cons, ← write_append, readItemsAux, skipBlank_write hfree, hv]
      cases js with
      | nil => simp [writeItems, skipBlank_cons, isBlankChar]
      | cons k ks =>
        have hlen : (writeItems true [] (k :: ks)).length < fuel := by
          rw [writeItems_false_cons, List.length_cons] at hf
          omega
        have hks := ih (j :: acc) (List.cons_ne_nil k ks) hjs hlen
        simpa [writeItems_false_cons, skipBlank_cons, isBlankChar] using hks

lemma readsBack_array (hj : ∀ j ∈ items, j.ReadsBack ∧ j.floatFree = true) :
    ReadsBack (array items) := by
  intro rest fuel d _ hd hf
  cases fuel with
  | zero => simp [write] at hf
  | succ fuel =>
    cases d with
    | zero => simp [depth] at hd
    | succ d =>
      have hdepth := depth_array_le.mp hd
      cases items with
      | nil => simp [write, writeItems, readValueAux, skipBlank_cons, isBlankChar]
      | cons j js =>
        obtain ⟨c, cs, hw, hc, hne⟩ := exists_write_eq_cons (hj j List.mem_cons_self).2
        have hlen : (writeItems true [] (j :: js)).length < fuel := by
          rw [write, writeItems_append] at hf
          simp only [List.length_cons, List.length_append] at hf
          omega
        have hitems := readItemsAux_write [] rest (List.cons_ne_nil j js)
          (fun k hk => ⟨(hj k hk).1, (hj k hk).2, hdepth k hk⟩) hlen
        rw [writeItems_true_cons, hw, List.cons_append] at hitems
        rw [write, writeItems_true_cons, hw, List.cons_append]
        simp [readValueAux, skipBlank_cons hc, hne, hitems]

lemma writeMembers_false_cons (m : String × Json) (ms : List (String × Json)) (rest : List Char) :
    writeMembers false rest (m :: ms) = ',' :: writeMembers true rest (m :: ms) := rfl

lemma writeMembers_true_cons (m : String × Json) (ms : List (String × Json)) (rest : List Char) :
    writeMembers true rest (m :: ms) =
      '"' :: (m.1.toList.flatMap escapeChar ++
        '"' :: ':' :: write (writeMembers false rest ms) m.2) := by
  simp [writeMembers, stringText]

lemma follows_writeMembers (ms : List (String × Json)) (rest : List Char) :
    Follows (writeMembers false ('\x7d' :: rest) ms) := by
  cases ms <;> simp [Follows, writeMembers]

lemma readMembersAux_write (acc : List (String × Json)) (rest : List Char) (hne : members ≠ [])
    (hj : ∀ m ∈ members, m.2.ReadsBack ∧ m.2.floatFree = true ∧ m.2.depth ≤ d)
    (hd : (keys (acc ++ members)).Nodup) (hf : (writeMembers true [] members).length < fuel) :
    readMembersAux acc fuel d (writeMembers true ('\x7d' :: rest) members) =
      some (acc ++ members, rest) := by
  induction members generalizing acc fuel with
  | nil => contradiction
  | cons m ms ih =>
    obtain ⟨⟨hread, hfree, hdepth⟩, hms⟩ := List.forall_mem_cons.mp hj
    have hset : setMember m.1 m.2 acc = acc ++ [m] := by
      apply setMember_of_notMem
      rw [keys_append, keys_cons, List.nodup_middle, List.nodup_cons] at hd
      exact fun h => hd.1 (List.mem_append_left _ h)
    cases fuel with
    | zero => simp at hf
    | succ fuel =>
      rw [writeMembers_true_cons, write_append] at hf
      simp only [List.length_cons, List.length_append] at hf
      have hv := hread _ fuel d (follows_writeMembers ms rest) hdepth (by omega)
      rw [writeMembers_true_cons, readMembersAux, skipBlank_cons rfl]
      have hcolon : ∀ cs, skipBlank (':' :: cs) = ':' :: cs := fun cs => skipBlank_cons rfl
      simp only [readString?_escaped, hcolon, skipBlank_write hfree, hv, hset]
      cases ms with
      | nil => simp [writeMembers, skipBlank_cons, isBlankChar]
      | cons k ks =>
        have hlen : (writeMembers true [] (k :: ks)).length < fuel := by
          rw [writeMembers_false_cons, List.length_cons] at hf
          omega
        have hks := ih (acc ++ [m]) (List.cons_ne_nil k ks) hms (by simpa using hd) hlen
        simpa [writeMembers_false_cons, skipBlank_cons, isBlankChar] using hks

lemma readsBack_object (hj : ∀ m ∈ members, m.2.ReadsBack ∧ m.2.floatFree = true)
    (hn : (keys members).Nodup) : ReadsBack (object members) := by
  intro rest fuel d _ hd hf
  cases fuel with
  | zero => simp [write] at hf
  | succ fuel =>
    cases d with
    | zero => simp [depth] at hd
    | succ d =>
      have hdepth := depth_object_le.mp hd
      cases members with
      | nil => simp [write, writeMembers, readValueAux, skipBlank_cons, isBlankChar]
      | cons m ms =>
        have hlen : (writeMembers true [] (m :: ms)).length < fuel := by
          rw [write, writeMembers_append] at hf
          simp only [List.length_cons, List.length_append] at hf
          omega
        have hmembers := readMembersAux_write [] rest (List.cons_ne_nil m ms)
          (fun k hk => ⟨(hj k hk).1, (hj k hk).2, hdepth k hk⟩) hn hlen
        rw [writeMembers_true_cons] at hmembers
        rw [write, writeMembers_true_cons]
        simp [readValueAux, skipBlank_cons, isBlankChar, hmembers]

/-- Every well-formed document without doubles is read back from its text. -/
theorem readsBack (j : Json) (hw : j.wellFormed = true) (hf : j.floatFree = true) :
    ReadsBack j := by
  induction j using Json.induction with
  | null =>
    intro rest fuel d _ _ hf
    cases fuel with
    | zero => simp [write] at hf
    | succ fuel => simp [write, readValueAux, readWord?]
  | bool b =>
    intro rest fuel d _ _ hf
    cases fuel with
    | zero => cases b <;> simp [write] at hf
    | succ fuel => cases b <;> simp [write, readValueAux, readWord?]
  | number n =>
    cases n with
    | whole i => exact readsBack_number i
    | float x => cases hf
  | string s => exact readsBack_string s
  | array items ih =>
    have hw := wellFormed_array.mp hw
    have hf := floatFree_array.mp hf
    exact readsBack_array fun j hj => ⟨ih j hj (hw j hj) (hf j hj), hf j hj⟩
  | object members ih =>
    obtain ⟨hn, hw⟩ := wellFormed_object.mp hw
    have hf := floatFree_object.mp hf
    exact readsBack_object (fun m hm => ⟨ih m hm (hw m hm) (hf m hm), hf m hm⟩) hn

theorem parse?_print (hw : j.wellFormed = true) (hf : j.floatFree = true)
    (hd : j.depth ≤ depthLimit) : parse? j.print = some j := by
  have hr := readsBack j hw hf [] ((write [] j).length + 1) depthLimit (by simp [Follows]) hd
    (Nat.le_succ _)
  simp only [parse?, print, String.toList_ofList, skipBlank_write hf, hr]
  rfl

/-- What the readers give for the fuel holds well-formed documents only. -/
structure ReadsWellFormed (fuel : ℕ) : Prop where
  value : ∀ {d cs j rest}, readValueAux fuel d cs = some (j, rest) → j.wellFormed = true
  items : ∀ {acc d cs items rest}, (∀ j ∈ acc, j.wellFormed = true) →
    readItemsAux acc fuel d cs = some (items, rest) → ∀ j ∈ items, j.wellFormed = true
  members : ∀ {acc d cs members rest}, (object acc).wellFormed = true →
    readMembersAux acc fuel d cs = some (members, rest) → (object members).wellFormed = true

namespace ReadsWellFormed

lemma readValueAux_succ (ih : ReadsWellFormed fuel)
    (h : readValueAux (fuel + 1) d cs = some (j, rest)) : j.wellFormed = true := by
  rw [readValueAux.eq_def] at h
  dsimp only at h
  split at h
  case h_1 => cases h
  case h_3 =>
    split at h
    next => cases h
    next =>
      split at h
      next =>
        cases h
        rfl
      next =>
        obtain ⟨⟨items, _⟩, hi, he⟩ := Option.map_eq_some_iff.mp h
        cases he
        exact wellFormed_array.mpr (ih.items (List.forall_mem_nil _) hi)
  case h_4 =>
    split at h
    next => cases h
    next =>
      split at h
      next =>
        cases h
        rfl
      next =>
        obtain ⟨⟨members, _⟩, hm, he⟩ := Option.map_eq_some_iff.mp h
        cases he
        exact ih.members rfl hm
  -- all other values are leaves
  all_goals
    obtain ⟨_, -, he⟩ := Option.map_eq_some_iff.mp h
    cases he
    rfl

lemma readItemsAux_succ {acc : List Json} (ih : ReadsWellFormed fuel)
    (hacc : ∀ j ∈ acc, j.wellFormed = true)
    (h : readItemsAux acc (fuel + 1) d cs = some (items, rest)) :
    ∀ j ∈ items, j.wellFormed = true := by
  rw [readItemsAux] at h
  split at h
  next => cases h
  next j cs hj =>
    have hacc : ∀ k ∈ j :: acc, k.wellFormed = true :=
      List.forall_mem_cons.mpr ⟨ih.value hj, hacc⟩
    split at h
    · exact ih.items hacc h
    · cases h
      exact fun k hk => hacc k (List.mem_reverse.mp hk)
    · cases h

lemma readMembersAux_succ {acc : List (String × Json)} (ih : ReadsWellFormed fuel)
    (hacc : (object acc).wellFormed = true)
    (h : readMembersAux acc (fuel + 1) d cs = some (members, rest)) :
    (object members).wellFormed = true := by
  rw [readMembersAux] at h
  split at h
  next =>
    split at h
    next => cases h
    next k cs hk =>
      split at h
      next =>
        split at h
        next => cases h
        next j cs hj =>
          have hacc := wellFormed_setMember k hacc (ih.value hj)
          split at h
          · exact ih.members hacc h
          · cases h
            exact hacc
          · cases h
      next => cases h
  next => cases h

end ReadsWellFormed

lemma readsWellFormed (fuel : ℕ) : ReadsWellFormed fuel := by
  induction fuel with
  | zero => constructor <;> simp [readValueAux, readItemsAux, readMembersAux]
  | succ fuel ih => exact ⟨ih.readValueAux_succ, ih.readItemsAux_succ, ih.readMembersAux_succ⟩

/-- No document that is read from a text has an object with two members of one key. -/
theorem wellFormed_of_parse? {s : String} (h : parse? s = some j) : j.wellFormed = true := by
  simp only [parse?] at h
  split at h
  next j' cs hv =>
    split at h
    · cases h
      exact (readsWellFormed _).value hv
    · cases h
  next => cases h

end

end StepConditions.Json
