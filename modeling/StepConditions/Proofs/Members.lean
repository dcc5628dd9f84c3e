import Mathlib
import StepConditions.Json.Basic

/-!
# Members of an object

A member that is set changes the value at its own key alone. It takes the place of an earlier one
or goes to the end, so keys stay distinct and in order. Members of an object may be set in another
one before or after more are set in them.
-/
namespace StepConditions.Json
variable {α : Type} {key k : String} {value v : α} {ms new : List (String × α)}

/-- The keys of members in their order. -/
def keys (ms : List (String × α)) : List String :=
  ms.map Prod.fst

@[simp] lemma keys_nil : keys ([] : List (String × α)) = [] := rfl

@[simp] lemma keys_cons (m : String × α) : keys (m :: ms) = m.1 :: keys ms := rfl

@[simp] lemma keys_append : keys (ms ++ new) = keys ms ++ keys new :=
  List.map_append

lemma keys_filter (p : String → Bool) :
    keys (ms.filter fun m => p m.1) = (keys ms).filter p :=
  List.filter_map.symm

lemma mem_keys_of_mem {m : String × α} (h : m ∈ ms) : m.1 ∈ keys ms :=
  List.mem_map_of_mem h

lemma getMember?_eq_none_iff : getMember? key ms = none ↔ key ∉ keys ms := by
  induction ms with
  | nil => simp [getMember?]
  | cons m ms ih =>
    by_cases h : m.1 = key
    · simp [getMember?, h]
    · simp [getMember?, h, ih, Ne.symm h]

lemma mem_of_getMember? (h : getMember? key ms = some value) : (key, value) ∈ ms := by
  induction ms with
  | nil => simp [getMember?] at h
  | cons m ms ih =>
    by_cases hm : m.1 = key
    · simp only [getMember?, hm, if_true, Option.some.injEq] at h
      simp [← hm, ← h]
    · simp only [getMember?, hm, if_false] at h
      exact List.mem_cons_of_mem m (ih h)

lemma getMember?_of_mem (hd : (keys ms).Nodup) (h : (key, value) ∈ ms) :
    getMember? key ms = some value := by
  induction ms with
  | nil => simp at h
  | cons m ms ih =>
    obtain ⟨hm, hd⟩ := List.nodup_cons.mp hd
    rcases List.mem_cons.mp h with rfl | h
    · simp [getMember?]
    · have hne : m.1 ≠ key := fun he => hm (he ▸ mem_keys_of_mem h)
      simp only [getMember?, hne, if_false]
      exact ih hd h

lemma getMember?_eq_some_iff (hd : (keys ms).Nodup) :
    getMember? key ms = some value ↔ (key, value) ∈ ms :=
  ⟨mem_of_getMember?, getMember?_of_mem hd⟩

lemma getMember?_append :
    getMember? key (ms ++ new) = (getMember? key ms).or (getMember? key new) := by
  induction ms with
  | nil => simp [getMember?]
  | cons m ms ih => by_cases hm : m.1 = key <;> simp [getMember?, hm, ih]

lemma getMember?_filter (p : String → Bool) :
    getMember? key (ms.filter fun m => p m.1) = if p key then getMember? key ms else none := by
  induction ms with
  | nil => simp [getMember?]
  | cons m ms ih =>
    cases hm : p m.1 with
    | true =>
      by_cases hk : m.1 = key
      · simp [getMember?, hk ▸ hm, hk]
      · simp [getMember?, hm, hk, ih]
    | false =>
      have hne : p key = true → m.1 ≠ key := fun hp hk => by simp [← hk, hm] at hp
      cases hp : p key with
      | true => simp [getMember?, hm, ih, hp, hne hp]
      | false => simp [hm, ih, hp]

/-- Setting a member is seen at its key and nowhere else. -/
theorem getMember?_setMember (key : String) (value : α) (ms : List (String × α)) (k : String) :
    getMember? k (setMember key value ms) = if k = key then some value else getMember? k ms := by
  induction ms with
  | nil => simp [setMember, getMember?, eq_comm (a := k)]
  | cons m ms ih =>
    by_cases hm : m.1 = key
    · by_cases hk : key = k <;> simp [setMember, getMember?, hm, hk, eq_comm (a := k)]
    · simp only [setMember, hm, if_false, getMember?, ih]
      by_cases hk : m.1 = k
      · have : k ≠ key := hk ▸ hm
        simp [hk, this]
      · simp [hk]

lemma setMember_of_notMem (h : key ∉ keys ms) : setMember key value ms = ms ++ [(key, value)] := by
  induction ms with
  | nil => rfl
  | cons m ms ih =>
    simp only [keys_cons, List.mem_cons, not_or] at h
    simp [setMember, Ne.symm h.1, ih h.2]

lemma keys_setMember_of_mem (h : key ∈ keys ms) : keys (setMember key value ms) = keys ms := by
  induction ms with
  | nil => simp at h
  | cons m ms ih =>
    by_cases hm : m.1 = key
    · simp [setMember, hm]
    · have h : key ∈ keys ms := (List.mem_cons.mp h).resolve_left (Ne.symm hm)
      simp [setMember, hm, ih h]

lemma mem_keys_setMember : k ∈ keys (setMember key value ms) ↔ k = key ∨ k ∈ keys ms := by
  by_cases h : key ∈ keys ms
  · rw [keys_setMember_of_mem h]
    constructor
    · exact .inr
    · rintro (rfl | hk)
      · exact h
      · exact hk
  · simp [setMember_of_notMem h, or_comm]

lemma nodup_keys_setMember (hd : (keys ms).Nodup) : (keys (setMember key value ms)).Nodup := by
  by_cases h : key ∈ keys ms
  · rwa [keys_setMember_of_mem h]
  · rw [setMember_of_notMem h, keys_append]
    exact List.concat_eq_append ▸ hd.concat h

lemma setMembers_cons (m : String × α) :
    setMembers ms (m :: new) = setMembers (setMember m.1 m.2 ms) new := rfl

lemma setMember_setMember (w : α) :
    setMember key value (setMember key w ms) = setMember key value ms := by
  induction ms with
  | nil => simp [setMember]
  | cons m ms ih => by_cases hm : m.1 = key <;> simp [setMember, hm, ih]

lemma setMember_of_getMember? (h : getMember? key ms = some value) :
    setMember key value ms = ms := by
  induction ms with
  | nil => cases h
  | cons m ms ih =>
    by_cases hm : m.1 = key
    · simp only [getMember?, hm, if_true, Option.some.injEq] at h
      simp [setMember, ← hm, ← h]
    · simp only [getMember?, hm, if_false] at h
      simp [setMember, hm, ih h]

/-- A key that has its place already may be set before or after another one. -/
lemma setMember_comm (hk : key ∈ keys ms) (hne : k ≠ key) :
    setMember key value (setMember k v ms) = setMember k v (setMember key value ms) := by
  induction ms with
  | nil => cases hk
  | cons m ms ih =>
    by_cases hm : m.1 = key
    · simp [setMember, hm, Ne.symm hne]
    · have hk : key ∈ keys ms := (List.mem_cons.mp hk).resolve_left (Ne.symm hm)
      by_cases hmk : m.1 = k
      · simp [setMember, hmk, hne]
      · simp [setMember, hm, hmk, ih hk]

lemma setMember_setMembers (hk : key ∈ keys ms) (hn : key ∉ keys new) :
    setMember key value (setMembers ms new) = setMembers (setMember key value ms) new := by
  induction new generalizing ms with
  | nil => rfl
  | cons m new ih =>
    simp only [keys_cons, List.mem_cons, not_or] at hn
    have hmem : key ∈ keys (setMember m.1 m.2 ms) := mem_keys_setMember.mpr (.inr hk)
    rw [setMembers_cons, ih hmem hn.2, setMember_comm hk (Ne.symm hn.1), setMembers_cons]

lemma setMembers_setMember (hn : (keys new).Nodup) :
    setMembers ms (setMember key value new) = setMember key value (setMembers ms new) := by
  induction new generalizing ms with
  | nil => rfl
  | cons m new ih =>
    obtain ⟨hm, hn⟩ := List.nodup_cons.mp hn
    by_cases hk : m.1 = key
    · subst hk
      have hmem : m.1 ∈ keys (setMember m.1 m.2 ms) := mem_keys_setMember.mpr (.inl rfl)
      have hset : setMember m.1 value (m :: new) = (m.1, value) :: new := if_pos rfl
      rw [hset, setMembers_cons, setMembers_cons, setMember_setMembers hmem hm, setMember_setMember]
    · have hset : setMember key value (m :: new) = m :: setMember key value new := if_neg hk
      rw [hset, setMembers_cons, ih hn, setMembers_cons]

/-- Members may be set together before they are set in others. -/
theorem setMembers_setMembers (hn : (keys new).Nodup) (more : List (String × α)) :
    setMembers (setMembers ms new) more = setMembers ms (setMembers new more) := by
  induction more generalizing new with
  | nil => rfl
  | cons m more ih =>
    rw [setMembers_cons, setMembers_cons, ← ih (nodup_keys_setMember hn), setMembers_setMember hn]

lemma setMembers_of_getMember? (h : ∀ m ∈ new, getMember? m.1 ms = some m.2) :
    setMembers ms new = ms := by
  induction new with
  | nil => rfl
  | cons m new ih =>
    obtain ⟨hm, h⟩ := List.forall_mem_cons.mp h
    rw [setMembers_cons, setMember_of_getMember? hm, ih h]

lemma setMembers_self (hn : (keys ms).Nodup) : setMembers ms ms = ms :=
  setMembers_of_getMember? fun _ hm => getMember?_of_mem hn hm

lemma mem_setMember {m : String × α} (h : m ∈ setMember key value ms) :
    m = (key, value) ∨ m ∈ ms := by
  induction ms with
  | nil => exact .inl (List.mem_singleton.mp h)
  | cons m' ms ih =>
    by_cases hm : m'.1 = key
    · simp only [setMember, hm, if_true, List.mem_cons] at h ⊢
      tauto
    · simp only [setMember, hm, if_false, List.mem_cons] at h ⊢
      tauto

/-- Members set in turn keep the keys before them in their places, and keys that are new follow in
their own order. -/
theorem keys_setMembers (hn : (keys new).Nodup) :
    keys (setMembers ms new) = keys ms ++ (keys new).filter fun k => k ∉ keys ms := by
  induction new generalizing ms with
  | nil => simp [setMembers]
  | cons m new ih =>
    obtain ⟨hm, hn⟩ := List.nodup_cons.mp hn
    by_cases h : m.1 ∈ keys ms
    · rw [setMembers_cons, ih hn, keys_setMember_of_mem h, keys_cons,
        List.filter_cons_of_neg (by simp [h])]
    · have hrest : ∀ k ∈ keys new, (k ∉ keys ms ++ [m.1]) = (k ∉ keys ms) := by
        intro k hk
        have : k ≠ m.1 := fun he => hm (he ▸ hk)
        simp [this]
      rw [setMembers_cons, ih hn, setMember_of_notMem h, keys_append, keys_cons, keys_cons,
        keys_nil, List.filter_cons_of_pos (by simp [h]), List.append_assoc, List.singleton_append]
      congr 2
      exact List.filter_congr fun k hk => by simp only [hrest k hk]

lemma setMembers_of_nodup (hd : (keys (ms ++ new)).Nodup) : setMembers ms new = ms ++ new := by
  induction new generalizing ms with
  | nil => simp [setMembers]
  | cons m new ih =>
    have hm : m.1 ∉ keys ms := by
      rw [keys_append, keys_cons, List.nodup_middle, List.nodup_cons] at hd
      exact fun h => hd.1 (List.mem_append_left _ h)
    rw [setMembers_cons, setMember_of_notMem hm, ih (by simpa using hd), List.append_assoc,
      List.singleton_append]

lemma getMember?_perm (hp : ms.Perm new) (hd : (keys ms).Nodup) :
    getMember? k ms = getMember? k new := by
  have hk : (keys ms).Perm (keys new) := hp.map Prod.fst
  cases h : getMember? k ms with
  | none =>
    rw [getMember?_eq_none_iff, hk.mem_iff] at h
    exact (getMember?_eq_none_iff.mpr h).symm
  | some v =>
    have hv : (k, v) ∈ new := hp.mem_iff.mp (mem_of_getMember? h)
    exact (getMember?_of_mem (hk.nodup_iff.mp hd) hv).symm

/-- Of members with distinct keys each gives the value at its key; the other keys keep theirs. -/
theorem getMember?_setMembers (hn : (keys new).Nodup) :
    getMember? k (setMembers ms new) = (getMember? k new).or (getMember? k ms) := by
  induction new generalizing ms with
  | nil => simp [setMembers, getMember?]
  | cons m new ih =>
    obtain ⟨hm, hn⟩ := List.nodup_cons.mp hn
    rw [setMembers_cons, ih hn, getMember?_setMember]
    by_cases hk : m.1 = k
    · have : getMember? k new = none := getMember?_eq_none_iff.mpr (hk ▸ hm)
      simp [getMember?, hk, this]
    · simp [getMember?, hk, Ne.symm hk]

end StepConditions.Json
