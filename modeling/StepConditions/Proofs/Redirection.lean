import Mathlib
import StepConditions.Proofs.Shape
import StepConditions.Redirection

/-!
# Redirections in either shape

What is reported for a key is the string under `parameters`, else the one at the top, else nothing.
Each key goes its own way, so entries may be moved under `parameters` one by one, and whatever
happens to the entries of one key, the other one is read as before.
-/
namespace StepConditions.Redirection
open Json
variable {doc doc' : Option Json} {key t : String} {r : Option String}
  {moved : List String} {extra before after : List (String × Json)}

/-- The keys that are read from a redirection. -/
def readKeys : List String := ["name", "targetStep"]

def AtTop (doc : Option Json) (key t : String) : Prop :=
  ∃ members, doc = some (.object members) ∧ (key, .string t) ∈ members

def InParameters (doc : Option Json) (key t : String) : Prop :=
  ∃ members params, doc = some (.object members) ∧
    ("parameters", .object params) ∈ members ∧ (key, .string t) ∈ params

/-- What a document says of a key. -/
inductive Reported (doc : Option Json) (key : String) : Option String → Prop
  | parameter {t : String} (h : InParameters doc key t) : Reported doc key (some t)
  | top {t : String} (hp : ∀ u, ¬ InParameters doc key u) (h : AtTop doc key t) :
      Reported doc key (some t)
  | nothing (hp : ∀ u, ¬ InParameters doc key u) (ht : ∀ u, ¬ AtTop doc key u) :
      Reported doc key none

/-- The entries of the keys in `moved` are taken from the top into a new object of parameters, where
other entries may stand beside them. The members of both objects may come in any order. -/
def Migrated (moved : List String) (extra before after : List (String × Json)) : Prop :=
  ∃ params, params.Perm ((before.filter fun m => m.1 ∈ moved) ++ extra) ∧
    after.Perm (("parameters", .object params) :: before.filter fun m => m.1 ∉ moved)

def top? (doc : Option Json) (key : String) : Option Json :=
  doc.bind (·.get? key)

def parameter? (doc : Option Json) (key : String) : Option Json :=
  (top? doc "parameters").bind (·.get? key)

/-- The documents have the same entries but for those of one key, be it at the top or in an object
of parameters. -/
def SameBut (key : String) (doc doc' : Option Json) : Prop :=
  ∀ k, k ≠ key → parameter? doc k = parameter? doc' k ∧
    (k ≠ "parameters" → top? doc k = top? doc' k)

lemma field?_eq (doc : Option Json) (key : String) : field? doc key =
    ((parameter? doc key).bind text?).or ((top? doc key).bind text?) := by
  cases doc with
  | none => rfl
  | some d =>
    have htop (k : String) : top? (some d) k = d.get? k := rfl
    simp only [field?, parameter?, htop, Option.bind_some]
    cases ((d.get? "parameters").bind (·.get? key)).bind text? <;> rfl

lemma bind_text?_eq_some_iff {j : Option Json} :
    j.bind text? = some t ↔ j = some (.string t) := by
  cases j with
  | none => simp
  | some j => cases j <;> simp [text?]

lemma atTop_iff (hd : ∀ d ∈ doc, d.wellFormed = true) :
    AtTop doc key t ↔ (top? doc key).bind text? = some t := by
  rw [bind_text?_eq_some_iff]
  cases doc with
  | none => simp [AtTop, top?]
  | some d => simp [AtTop, top?, get?_eq_some_iff (hd d rfl)]

lemma inParameters_iff (hd : ∀ d ∈ doc, d.wellFormed = true) :
    InParameters doc key t ↔ (parameter? doc key).bind text? = some t := by
  rw [bind_text?_eq_some_iff, parameter?, Option.bind_eq_some_iff]
  cases doc with
  | none => simp [InParameters, top?]
  | some d =>
    have hwell : d.wellFormed = true := hd d rfl
    have htop : top? (some d) "parameters" = d.get? "parameters" := rfl
    rw [htop]
    constructor
    · rintro ⟨members, params, hdoc, hparams, hmem⟩
      have hget := (get?_eq_some_iff hwell).mpr ⟨members, Option.some.inj hdoc, hparams⟩
      exact ⟨_, hget, (get?_eq_some_iff (wellFormed_of_get? hwell hget)).mpr ⟨params, rfl, hmem⟩⟩
    · rintro ⟨p, hget, hkey⟩
      obtain ⟨params, rfl, hmem⟩ := (get?_eq_some_iff (wellFormed_of_get? hwell hget)).mp hkey
      obtain ⟨members, rfl, hparams⟩ := (get?_eq_some_iff hwell).mp hget
      exact ⟨members, params, rfl, hparams, hmem⟩

lemma field?_eq_iff (hd : ∀ d ∈ doc, d.wellFormed = true) :
    field? doc key = r ↔ Reported doc key r := by
  rw [field?_eq]
  constructor
  · rintro rfl
    cases hp : (parameter? doc key).bind text? with
    | some t => exact .parameter ((inParameters_iff hd).mpr hp)
    | none =>
      have hno : ∀ u, ¬ InParameters doc key u := by simp [inParameters_iff hd, hp]
      cases ht : (top? doc key).bind text? with
      | some t => exact .top hno ((atTop_iff hd).mpr ht)
      | none => exact .nothing hno (by simp [atTop_iff hd, ht])
  · intro h
    have hnone (hp : ∀ u, ¬ InParameters doc key u) : (parameter? doc key).bind text? = none := by
      simpa [inParameters_iff hd, Option.eq_none_iff_forall_ne_some] using hp
    cases h with
    | parameter h => rw [(inParameters_iff hd).mp h, Option.some_or]
    | top hp h => rw [hnone hp, (atTop_iff hd).mp h, Option.none_or]
    | nothing hp ht =>
      rw [hnone hp, Option.none_or]
      simpa [atTop_iff hd, Option.eq_none_iff_forall_ne_some] using ht

lemma field?_congr (hp : parameter? doc key = parameter? doc' key)
    (ht : top? doc key = top? doc' key) : field? doc key = field? doc' key := by
  rw [field?_eq, field?_eq, hp, ht]

/-- Moved entries are found under `parameters` and nowhere else, the others where they were. -/
lemma entries_of_migrated (hb : (keys before).Nodup) (he : (keys extra).Nodup)
    (hfresh : "parameters" ∉ keys before) (hmoved : moved ⊆ readKeys)
    (hextra : ∀ k ∈ keys extra, k ∉ readKeys) (h : Migrated moved extra before after)
    (hk : key ∈ readKeys) :
    parameter? (some (object after)) key = (if key ∈ moved then getMember? key before else none) ∧
      top? (some (object after)) key = if key ∉ moved then getMember? key before else none := by
  obtain ⟨params, hparams, hafter⟩ := h
  have hne : "parameters" ≠ key := by
    rintro rfl
    exact absurd hk (by decide)
  have hinside : (keys ((before.filter fun m => m.1 ∈ moved) ++ extra)).Nodup := by
    rw [keys_append, keys_filter fun k => k ∈ moved]
    refine (hb.filter _).append he fun k hfilter hmem => ?_
    have hkm : k ∈ moved := by simpa using (List.mem_filter.mp hfilter).2
    exact hextra k hmem (hmoved hkm)
  have houtside : (keys (("parameters", object params) ::
      before.filter fun m => m.1 ∉ moved)).Nodup := by
    rw [keys_cons, keys_filter fun k => k ∉ moved]
    exact List.nodup_cons.mpr ⟨fun hmem => hfresh (List.mem_filter.mp hmem).1, hb.filter _⟩
  have hget (k : String) : top? (some (object after)) k =
      getMember? k (("parameters", object params) :: before.filter fun m => m.1 ∉ moved) :=
    (getMember?_perm hafter.symm houtside).symm
  have hnoextra : getMember? key extra = none :=
    getMember?_eq_none_iff.mpr fun hmem => hextra key hmem hk
  constructor
  · have hobject : top? (some (object after)) "parameters" = some (object params) := by
      simp [hget, getMember?]
    rw [parameter?, hobject]
    change getMember? key params = _
    rw [← getMember?_perm hparams.symm hinside, getMember?_append, hnoextra, Option.or_none,
      getMember?_filter fun k => k ∈ moved]
    simp
  · rw [hget, getMember?, if_neg hne, getMember?_filter fun k => k ∉ moved]
    simp

lemma field?_of_migrated (hb : (keys before).Nodup) (he : (keys extra).Nodup)
    (hfresh : "parameters" ∉ keys before) (hmoved : moved ⊆ readKeys)
    (hextra : ∀ k ∈ keys extra, k ∉ readKeys) (h : Migrated moved extra before after)
    (hk : key ∈ readKeys) :
    field? (some (object after)) key = field? (some (object before)) key := by
  obtain ⟨hparameter, htop⟩ := entries_of_migrated hb he hfresh hmoved hextra h hk
  have hnone : top? (some (object before)) "parameters" = none :=
    getMember?_eq_none_iff.mpr hfresh
  have hbefore : top? (some (object before)) key = getMember? key before := rfl
  rw [field?_eq, field?_eq, hparameter, htop, parameter?, hnone, hbefore]
  by_cases hm : key ∈ moved <;> simp [hm]

lemma name_eq_iff (hd : ∀ d ∈ doc, d.wellFormed = true) :
    name doc = t ↔ ∃ r, Reported doc "name" r ∧ t = r.getD "Unknown" := by
  constructor
  · intro h
    exact ⟨field? doc "name", (field?_eq_iff hd).mp rfl, h.symm⟩
  · rintro ⟨r, hr, rfl⟩
    rw [name, (field?_eq_iff hd).mpr hr]
    rfl

/-- Both keys are read alike before and after a migration, each as its own entries say. -/
theorem migration_invisible :
    (∀ moved extra before after, (object before).wellFormed = true →
      (object extra).wellFormed = true → "parameters" ∉ keys before → moved ⊆ readKeys →
      (∀ k ∈ keys extra, k ∉ readKeys) → Migrated moved extra before after →
      name (some (object after)) = name (some (object before)) ∧
        targetStep? (some (object after)) = targetStep? (some (object before))) ∧
    (∀ doc, (∀ d ∈ doc, d.wellFormed = true) →
      (∀ t, name doc = t ↔ ∃ r, Reported doc "name" r ∧ t = r.getD "Unknown") ∧
      (∀ r, targetStep? doc = r ↔ Reported doc "targetStep" r)) ∧
    (∀ doc doc', SameBut "targetStep" doc doc' → name doc = name doc') ∧
    (∀ doc doc', SameBut "name" doc doc' → targetStep? doc = targetStep? doc') := by
  refine ⟨?_, fun doc hd => ⟨fun t => name_eq_iff hd, fun r => field?_eq_iff hd⟩, ?_, ?_⟩
  · intro moved extra before after hb he hfresh hmoved hextra h
    have hfield {key : String} (hk : key ∈ readKeys) :=
      field?_of_migrated (wellFormed_object.mp hb).1 (wellFormed_object.mp he).1 hfresh hmoved
        hextra h hk
    constructor
    · rw [name, name, hfield (by decide)]
    · exact hfield (by decide)
  · intro doc doc' h
    obtain ⟨hparameter, htop⟩ := h "name" (by decide)
    rw [name, name, field?_congr hparameter (htop (by decide))]
  · intro doc doc' h
    obtain ⟨hparameter, htop⟩ := h "targetStep" (by decide)
    exact field?_congr hparameter (htop (by decide))

/-- One entry is moved and one stays; then the moved one is at the top again, as another text. -/
theorem migration_invisible_half :
    let before := [("targetStep", string "review"), ("name", null), ("note", array [])]
    let after := [("name", null), ("parameters", object
      [("parameters", bool true), ("targetStep", string "review")]), ("note", array [])]
    let edited := [("parameters", object [("parameters", bool true)]), ("name", null),
      ("note", array []), ("targetStep", string "quote")]
    targetStep? (some (object after)) = targetStep? (some (object before)) ∧
      name (some (object after)) = name (some (object edited)) ∧
      Reported (some (object edited)) "targetStep" (some "quote") := by
  intro before after edited
  have h := migration_invisible
  have hmigrated : Migrated ["targetStep"] [("parameters", bool true)] before after :=
    ⟨[("parameters", bool true), ("targetStep", string "review")], .swap _ _ _, .swap _ _ _⟩
  have hsame : SameBut "targetStep" (some (object after)) (some (object edited)) := by
    intro k hk
    constructor
    · simp [parameter?, top?, get?, getMember?, after, edited, Ne.symm hk]
    · intro hp
      simp [top?, get?, getMember?, after, edited, Ne.symm hk, Ne.symm hp]
  have hedited : ∀ d ∈ some (object edited), d.wellFormed = true := by
    rintro d ⟨⟩
    decide
  exact ⟨(h.1 _ _ _ _ (by decide) (by decide) (by decide) (by decide) (by decide) hmigrated).2,
    h.2.2.1 _ _ hsame, ((h.2.1 _ hedited).2 _).mp rfl⟩

end StepConditions.Redirection
