import Mathlib
import StepConditions.Proofs.EvalCommand
import StepConditions.Proofs.JsonText
import StepConditions.Proofs.Loading
import StepConditions.Proofs.Redirection

/-!
# Documents in files

In whichever format a file is written, no object of the document that is read from it has two
members of one key. So commands that read a document find in it what chains of members lead to, and
the data of steps in a file is the beginning of a store.
-/
namespace StepConditions

namespace Yaml
variable {d : EventList} {fuel depth jumps : ℕ} {es : List Event} {j : Json} {text : String}

lemma wellFormed_of_floatScalar? {cs : List Char} (h : floatScalar? cs = some j) :
    j.wellFormed = true := by
  rw [floatScalar?] at h
  split at h
  · cases h
    rfl
  · obtain ⟨x, -, hx⟩ := Option.bind_eq_some_iff.mp h
    obtain ⟨n, -, rfl⟩ := Option.map_eq_some_iff.mp hx
    rfl

lemma wellFormed_floatScalar?_getD (cs : List Char) (text : String) :
    ((floatScalar? cs).getD (.string text)).wellFormed = true := by
  cases hf : floatScalar? cs with
  | none => rfl
  | some j => exact wellFormed_of_floatScalar? hf

lemma wellFormed_of_plainScalar? (h : plainScalar? text = some j) : j.wellFormed = true := by
  simp only [plainScalar?] at h
  split at h
  next =>
    cases h
    rfl
  next =>
    split at h
    next =>
      cases h
      rfl
    next =>
      split at h
      next =>
        cases h
        rfl
      next => cases h
      next =>
        split at h
        next =>
          cases h
          rfl
        next =>
          cases h
          exact wellFormed_floatScalar?_getD text.toList text

lemma wellFormed_of_forcedScalar? {tag : Tag} (h : forcedScalar? tag text = some j) :
    j.wellFormed = true := by
  simp only [forcedScalar?, forcedInt?] at h
  split_ifs at h
  · obtain ⟨b, -, rfl⟩ := Option.map_eq_some_iff.mp h
    rfl
  · split at h
    next =>
      cases h
      rfl
    next => cases h
  · exact wellFormed_of_floatScalar? h
  · cases h
    rfl
  · cases h
    rfl

lemma wellFormed_of_scalar? {tag : Option Tag} {plain : Bool}
    (h : scalar? tag plain text = some j) : j.wellFormed = true := by
  have huntagged : untaggedScalar? plain text = some j → j.wellFormed = true := by
    intro hj
    rw [untaggedScalar?] at hj
    split_ifs at hj
    · exact wellFormed_of_plainScalar? hj
    · cases hj
      rfl
  cases tag with
  | none => exact huntagged h
  | some t =>
    simp only [scalar?] at h
    split_ifs at h
    · exact huntagged h
    · exact wellFormed_of_forcedScalar? h

/-- What the readers give for the fuel holds well-formed documents only. -/
structure ReadsWellFormed (d : EventList) (fuel : ℕ) : Prop where
  node : ∀ {depth jumps es b}, d.node? depth fuel jumps es = some b → b.value.wellFormed = true
  items : ∀ {depth acc jumps es b}, (∀ j ∈ acc, j.wellFormed = true) →
    d.items? depth acc fuel jumps es = some b → ∀ j ∈ b.value, j.wellFormed = true
  pairs : ∀ {depth acc jumps es b}, (Json.object acc).wellFormed = true →
    d.pairs? depth acc fuel jumps es = some b → (Json.object b.value).wellFormed = true

namespace ReadsWellFormed

lemma node?_succ {b : Built Json} (ih : ReadsWellFormed d fuel)
    (h : d.node? depth (fuel + 1) jumps es = some b) : b.value.wellFormed = true := by
  rw [EventList.node?.eq_def] at h
  dsimp only at h
  split at h
  case h_1 =>
    obtain ⟨j, hj, rfl⟩ := Option.map_eq_some_iff.mp h
    exact wellFormed_of_scalar? hj
  case h_2 =>
    split at h
    · cases h
    · obtain ⟨b', hb, rfl⟩ := Option.map_eq_some_iff.mp h
      have hb' := ih.node hb
      exact hb'
  case h_3 =>
    split at h
    · cases h
    · split at h
      · cases h
      · obtain ⟨b', hb, rfl⟩ := Option.map_eq_some_iff.mp h
        exact Json.wellFormed_array.mpr (ih.items (List.forall_mem_nil _) hb)
  case h_4 =>
    split at h
    · cases h
    · split at h
      · cases h
      · obtain ⟨b', hb, rfl⟩ := Option.map_eq_some_iff.mp h
        exact ih.pairs rfl hb
  case h_5 => cases h

lemma items?_succ {acc : List Json} {b : Built (List Json)} (ih : ReadsWellFormed d fuel)
    (hacc : ∀ j ∈ acc, j.wellFormed = true)
    (h : d.items? depth acc (fuel + 1) jumps es = some b) : ∀ j ∈ b.value, j.wellFormed = true := by
  rw [EventList.items?.eq_def] at h
  dsimp only at h
  split at h
  next =>
    cases h
    exact fun k hk => hacc k (List.mem_reverse.mp hk)
  next =>
    split at h
    next => cases h
    next b' hb => exact ih.items (List.forall_mem_cons.mpr ⟨ih.node hb, hacc⟩) h

lemma pairs?_succ {acc : List (String × Json)} {b : Built (List (String × Json))}
    (ih : ReadsWellFormed d fuel) (hacc : (Json.object acc).wellFormed = true)
    (h : d.pairs? depth acc (fuel + 1) jumps es = some b) :
    (Json.object b.value).wellFormed = true := by
  rw [EventList.pairs?.eq_def] at h
  dsimp only at h
  split at h
  next =>
    cases h
    exact hacc
  next =>
    split at h
    next => cases h
    next k hk =>
      split at h
      next => cases h
      next b' hb => exact ih.pairs (Json.wellFormed_setMember k.value hacc (ih.node hb)) h

end ReadsWellFormed

lemma readsWellFormed (d : EventList) (fuel : ℕ) : ReadsWellFormed d fuel := by
  induction fuel with
  | zero => constructor <;> simp [EventList.node?, EventList.items?, EventList.pairs?]
  | succ fuel ih => exact ⟨ih.node?_succ, ih.items?_succ, ih.pairs?_succ⟩

/-- No document that is read from a text has an object with two members of one key. -/
theorem wellFormed_of_parse? (h : parse? text = some j) : j.wellFormed = true := by
  simp only [parse?, Option.bind_eq_bind, Option.bind_eq_some_iff] at h
  obtain ⟨tokens, -, d, -, hd⟩ := h
  rw [EventList.document?] at hd
  split_ifs at hd
  · cases hd
    rfl
  · obtain ⟨b, hb, rfl⟩ := Option.map_eq_some_iff.mp hd
    exact (readsWellFormed d _).node hb

end Yaml

theorem Document.wellFormed_of_parse {format : Format} {text : String} {doc : Json}
    (h : Document.parse format text = .ok doc) : doc.wellFormed = true := by
  cases format with
  | json =>
    cases hj : Json.parse? text with
    | none => simp [Document.parse, hj] at h
    | some j =>
      simp only [Document.parse, hj, Option.elim_some, Except.ok.injEq] at h
      exact h ▸ Json.wellFormed_of_parse? hj
  | yaml =>
    cases hj : Yaml.parse? text with
    | none => simp [Document.parse, hj] at h
    | some j =>
      simp only [Document.parse, hj, Option.elim_some, Except.ok.injEq] at h
      exact h ▸ Yaml.wellFormed_of_parse? hj

namespace CommandLine.Surroundings
open Json (Chain segments)
open Redirection (Reported)
variable {w : Surroundings} {document path data : String} {doc n : Json} {s : Store}
  {name target : Option String}

lemma Reads.wellFormed (h : w.Reads path doc) : doc.wellFormed = true := by
  obtain ⟨text, -, hdoc⟩ := h
  exact Document.wellFormed_of_parse hdoc

/-- The data of steps that is read from a file is recorded as it stands there. -/
theorem start_of_reads (h : w.Reads data doc) (hs : Store.ofJson doc = .ok s) :
    s.Start ∧ s.toJson = doc := by
  refine ⟨.inr ⟨doc, h.wellFormed, hs⟩, ?_⟩
  obtain ⟨ms, rfl, -, rfl⟩ := Store.exists_of_ofJson_eq_ok hs
  have hset : Json.setMembers [] ms = ms :=
    Json.setMembers_of_nodup (Json.wellFormed_object.mp h.wellFormed).1
  rw [Store.toJson, hset]

/-- The document in the file has the node at the end of the chain along the keys of the path. -/
def Finds (w : Surroundings) (document path : String) (n : Json) : Prop :=
  ∃ doc, w.Reads document doc ∧ Text.isBlank path = false ∧ Chain (segments path) doc n

lemma finds_iff : w.Finds document path n ↔
    ∃ doc, w.load document = .ok doc ∧ doc.at? path = some n := by
  simp only [Finds, load_eq_ok_iff]
  refine exists_congr fun doc => and_congr_right fun h => ?_
  exact (Json.at?_eq_some_iff h.wellFormed).symm

/-- A path prints the node that it finds, and nothing if there is none. -/
theorem run_path (w : Surroundings) (document path : String) :
    (∀ n, w.Finds document path n → w.run (.path document path) = .success n.print) ∧
    ((∀ n, ¬ w.Finds document path n) →
      (w.run (.path document path)).code = 1 ∧ (w.run (.path document path)).output = "") := by
  constructor
  · intro n hn
    obtain ⟨doc, hdoc, hat⟩ := finds_iff.mp hn
    rw [run, Surroundings.path, hdoc]
    simp only [bind, Except.bind, hat]
    rfl
  · intro hno
    rw [run, Surroundings.path]
    cases hdoc : w.load document with
    | error e => exact ⟨rfl, rfl⟩
    | ok doc =>
      have hat : doc.at? path = none :=
        Option.eq_none_iff_forall_ne_some.mpr fun n hn => hno n (finds_iff.mpr ⟨doc, hdoc, hn⟩)
      simp only [bind, Except.bind, hat]
      exact ⟨rfl, rfl⟩

/-- A redirection is reported as the entries of the document in the file say, in either shape. -/
theorem run_redirect (h : w.Reads document doc) (hname : Reported (some doc) "name" name)
    (htarget : Reported (some doc) "targetStep" target) :
    w.run (.redirect document) = .success
      ("name: " ++ name.getD "Unknown" ++ "\ntargetStep: " ++ target.getD "-") := by
  have hwell : ∀ d ∈ some doc, d.wellFormed = true := fun d hd => Option.some.inj hd ▸ h.wellFormed
  have hreported : Redirection.name (some doc) = name.getD "Unknown" :=
    (Redirection.name_eq_iff hwell).mpr ⟨name, hname, rfl⟩
  have hstep : Redirection.targetStep? (some doc) = target :=
    (Redirection.field?_eq_iff hwell).mpr htarget
  rw [run, redirect, load_eq_ok_iff.mpr h]
  simp only [bind, Except.bind, hreported, hstep]
  rfl

end CommandLine.Surroundings

end StepConditions
