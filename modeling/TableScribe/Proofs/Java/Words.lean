/-
The words of a name.  They are its longest runs of letters and numbers, each in one case, so names
that differ in what stands between the runs, or in the case a run is written in, convert alike.
-/
import Mathlib.Data.List.Forall2
import TableScribe.Java.Identifier
import TableScribe.Proofs.Text.AsciiCase

namespace TableScribe.Java

open Unicode

/-- The runs of letters and numbers of a text, empty ones left out. -/
def fullRuns (text : List Char) : List (List Char) := (runs text).filter fun run => !run.isEmpty

theorem words_eq (name : List Char) : words name = (fullRuns name).map normalizeWord := rfl

theorem runs_eq_splitOnP (text : List Char) :
    runs text = text.splitOnP fun c => !isAlphanumeric c := by
  induction text with
  | nil => rfl
  | cons c rest ih =>
      rw [runs, ih, List.splitOnP_cons_eq_if_modifyHead]
      cases hc : isAlphanumeric c with
      | false => simp
      | true =>
          cases hruns : rest.splitOnP fun c => !isAlphanumeric c with
          | nil => exact absurd hruns (List.splitOnP_ne_nil _ rest)
          | cons head tail => simp

/-- A text has the given runs: they are pieces of letters and numbers, and nothing else in the text
is a letter or number.  Each of them is as long as it can be. -/
inductive HasRuns : List Char → List (List Char) → Prop
  | gap {gap : List Char} (hgap : ∀ c ∈ gap, isAlphanumeric c = false) : HasRuns gap []
  | run {gap run rest : List Char} {others : List (List Char)}
      (hgap : ∀ c ∈ gap, isAlphanumeric c = false) (hne : run ≠ [])
      (hrun : ∀ c ∈ run, isAlphanumeric c = true)
      (hend : ∀ c ∈ rest.head?, isAlphanumeric c = false) (hrest : HasRuns rest others) :
      HasRuns (gap ++ run ++ rest) (run :: others)

section

variable {text gap run rest : List Char} {found : List (List Char)}

theorem fullRuns_append_of_gap (hgap : ∀ c ∈ gap, isAlphanumeric c = false) :
    fullRuns (gap ++ rest) = fullRuns rest := by
  induction gap with
  | nil => rfl
  | cons c gap ih =>
      obtain ⟨hc, hgap⟩ := List.forall_mem_cons.mp hgap
      simpa [fullRuns, runs, hc] using ih hgap

theorem runs_of_forall (hrun : ∀ c ∈ run, isAlphanumeric c = true) : runs run = [run] := by
  rw [runs_eq_splitOnP]
  exact List.splitOnP_eq_singleton fun c hc => by simp [hrun c hc]

theorem fullRuns_append_of_run (hne : run ≠ []) (hrun : ∀ c ∈ run, isAlphanumeric c = true)
    (hend : ∀ c ∈ rest.head?, isAlphanumeric c = false) :
    fullRuns (run ++ rest) = run :: fullRuns rest := by
  cases rest with
  | nil =>
      rw [List.append_nil, fullRuns, runs_of_forall hrun]
      simp [fullRuns, runs, hne]
  | cons c rest =>
      have hc : isAlphanumeric c = false := hend c rfl
      have hruns : runs (run ++ c :: rest) = run :: runs rest := by
        rw [runs_eq_splitOnP, List.splitOnP_append_cons run rest (by simp [hc]),
          ← runs_eq_splitOnP, ← runs_eq_splitOnP, runs_of_forall hrun, List.singleton_append]
      simp [fullRuns, hruns, runs, hc, hne]

/-- A text has the runs that it is cut into, and no others. -/
theorem HasRuns.eq_fullRuns (hruns : HasRuns text found) : found = fullRuns text := by
  induction hruns with
  | gap hgap =>
      have hempty := @fullRuns_append_of_gap _ [] hgap
      rw [List.append_nil] at hempty
      exact hempty.symm
  | run hgap hne hrun hend _ ih =>
      rw [List.append_assoc, fullRuns_append_of_gap hgap, fullRuns_append_of_run hne hrun hend, ih]

theorem HasRuns.cons_gap {c : Char} (hc : isAlphanumeric c = false) (hruns : HasRuns text found) :
    HasRuns (c :: text) found := by
  cases hruns with
  | gap hgap => exact .gap (List.forall_mem_cons.mpr ⟨hc, hgap⟩)
  | run hgap hne hrun hend hrest =>
      exact .run (List.forall_mem_cons.mpr ⟨hc, hgap⟩) hne hrun hend hrest

/-- A letter in front of a text goes on with a run at its start, or else is a run of its own. -/
theorem HasRuns.exists_cons {c : Char} (hc : isAlphanumeric c = true) (hruns : HasRuns text found) :
    ∃ others, HasRuns (c :: text) others := by
  have hself : ∀ d ∈ [c], isAlphanumeric d = true := List.forall_mem_singleton.mpr hc
  have hne : [c] ≠ [] := List.cons_ne_nil c []
  have hruns' := hruns
  cases hruns with
  | gap hgap =>
      have hend : ∀ d ∈ text.head?, isAlphanumeric d = false :=
        fun d hd => hgap d (List.mem_of_mem_head? hd)
      exact ⟨[[c]], @HasRuns.run [] [c] _ _ nofun hne hself hend hruns'⟩
  | @run gap run rest others hgap hfirst hrun hend hrest =>
      cases gap with
      | nil =>
          have hlonger : ∀ d ∈ c :: run, isAlphanumeric d = true :=
            List.forall_mem_cons.mpr ⟨hc, hrun⟩
          have hne' : c :: run ≠ [] := List.cons_ne_nil c run
          exact ⟨_, @HasRuns.run [] (c :: run) _ _ nofun hne' hlonger hend hrest⟩
      | cons d gap =>
          have hapart : ∀ e ∈ (d :: gap ++ run ++ rest).head?, isAlphanumeric e = false := by
            rintro e ⟨⟩
            exact hgap d List.mem_cons_self
          exact ⟨_, @HasRuns.run [] [c] _ _ nofun hne hself hapart hruns'⟩

theorem exists_hasRuns (text : List Char) : ∃ found, HasRuns text found := by
  induction text with
  | nil => exact ⟨[], .gap nofun⟩
  | cons c rest ih =>
      obtain ⟨found, hfound⟩ := ih
      cases hc : isAlphanumeric c with
      | false => exact ⟨found, hfound.cons_gap hc⟩
      | true => exact hfound.exists_cons hc

/-- The runs of a text are those that its words are made of. -/
theorem hasRuns_iff : HasRuns text found ↔ found = fullRuns text := by
  constructor
  · exact HasRuns.eq_fullRuns
  · rintro rfl
    obtain ⟨found, hfound⟩ := exists_hasRuns text
    exact hfound.eq_fullRuns ▸ hfound

end

section

variable {c : Char}

theorem toNat_toUpper_lt (hc : c.toNat < 0x80) : c.toUpper.toNat < 0x80 :=
  Text.of_isAscii (P := fun c => c.toUpper.toNat < 0x80) (by decide +kernel) hc

theorem toNat_toLower_lt (hc : c.toNat < 0x80) : c.toLower.toNat < 0x80 :=
  Text.of_isAscii (P := fun c => c.toLower.toNat < 0x80) (by decide +kernel) hc

theorem isLower_toUpper (hc : c.toNat < 0x80) : c.toUpper.isLower = false :=
  Text.of_isAscii (P := fun c => c.toUpper.isLower = false) (by decide +kernel) hc

theorem toLower_toUpper (hc : c.toNat < 0x80) : c.toUpper.toLower = c.toLower :=
  Text.of_isAscii (P := fun c => c.toUpper.toLower = c.toLower) (by decide +kernel) hc

theorem toLower_toLower (hc : c.toNat < 0x80) : c.toLower.toLower = c.toLower :=
  Text.of_isAscii (P := fun c => c.toLower.toLower = c.toLower) (by decide +kernel) hc

end

/-- A text of ASCII characters. -/
def IsAsciiText (text : List Char) : Prop := ∀ c ∈ text, c.toNat < 0x80

instance (text : List Char) : Decidable (IsAsciiText text) :=
  List.decidableBAll (fun c : Char => c.toNat < 0x80) text

section

variable {word : List Char} (hword : IsAsciiText word)

include hword

theorem lowerAfter_ascii (before : List Char) : lowerAfter before word = word.map Char.toLower := by
  induction word generalizing before with
  | nil => rfl
  | cons c rest ih =>
      obtain ⟨hc, hrest⟩ := List.forall_mem_cons.mp hword
      have hsigma : c ≠ 'Σ' := by
        rintro rfl
        exact absurd hc (by decide)
      simp [lowerAfter, hsigma, lowerCase, hc, ih hrest]

/-- A word of ASCII is kept if it has a lower case letter, and put in lower case otherwise. -/
theorem normalizeWord_ascii :
    normalizeWord word = if word.any Char.isLower then word else word.map Char.toLower := by
  have hany : word.any isLowercase = word.any Char.isLower := by
    rw [Bool.eq_iff_iff, List.any_eq_true, List.any_eq_true]
    refine exists_congr fun c => and_congr_right fun hc => ?_
    rw [isLowercase, if_pos (hword c hc)]
  rw [normalizeWord, hany, lowerAfter_ascii hword]

theorem normalizeWord_map_toLower :
    normalizeWord (word.map Char.toLower) = word.map Char.toLower := by
  rw [normalizeWord_ascii (List.forall_mem_map.mpr fun c hc => toNat_toLower_lt (hword c hc)),
    List.map_map]
  have hsame : word.map (Char.toLower ∘ Char.toLower) = word.map Char.toLower :=
    List.map_congr_left fun c hc => toLower_toLower (hword c hc)
  rw [hsame, ite_self]

theorem normalizeWord_map_toUpper :
    normalizeWord (word.map Char.toUpper) = word.map Char.toLower := by
  rw [normalizeWord_ascii (List.forall_mem_map.mpr fun c hc => toNat_toUpper_lt (hword c hc))]
  have hnone : (word.map Char.toUpper).any Char.isLower = false :=
    List.any_eq_false.mpr (List.forall_mem_map.mpr fun c hc =>
      Bool.eq_false_iff.mp (isLower_toUpper (hword c hc)))
  rw [hnone, List.map_map]
  exact List.map_congr_left fun c hc => toLower_toUpper (hword c hc)

end

/-- Two runs are the same, or they are one word of ASCII, once in upper case and once in lower
case. -/
def Recased (first second : List Char) : Prop :=
  first = second ∨ ∃ word, IsAsciiText word ∧
    (first = word.map Char.toUpper ∧ second = word.map Char.toLower ∨
      first = word.map Char.toLower ∧ second = word.map Char.toUpper)

/-- The case of a whole run is lost in the word made from it. -/
theorem Recased.normalizeWord_eq {first second : List Char} (hrecased : Recased first second) :
    normalizeWord first = normalizeWord second := by
  rcases hrecased with rfl | ⟨word, hword, ⟨rfl, rfl⟩ | ⟨rfl, rfl⟩⟩
  · rfl
  · rw [normalizeWord_map_toUpper hword, normalizeWord_map_toLower hword]
  · rw [normalizeWord_map_toUpper hword, normalizeWord_map_toLower hword]

/-- Names of the same runs, up to the case each is written in, have the same words. -/
theorem words_eq_of_recased {first second : List Char} {runs others : List (List Char)}
    (hfirst : HasRuns first runs) (hsecond : HasRuns second others)
    (hrecased : List.Forall₂ Recased runs others) : words first = words second := by
  have hnormalized : runs.map normalizeWord = others.map normalizeWord := by
    rw [← List.forall₂_eq_eq_eq, List.forall₂_map_left_iff, List.forall₂_map_right_iff]
    exact hrecased.imp fun _ _ => Recased.normalizeWord_eq
  rw [words_eq, words_eq, ← hfirst.eq_fullRuns, ← hsecond.eq_fullRuns, hnormalized]

/-- Every name has its runs, and names with the same runs, each up to the case it is written in,
convert alike, whatever stands before, between and behind the runs. -/
theorem names_convert_alike :
    (∀ name : String, ∃! runs, HasRuns name.toList runs) ∧
    ∀ (first second : String) (runs others : List (List Char)), HasRuns first.toList runs →
      HasRuns second.toList others → List.Forall₂ Recased runs others →
        fieldName first = fieldName second ∧ typeName first = typeName second := by
  constructor
  · intro name
    exact ⟨_, hasRuns_iff.mpr rfl, fun runs hruns => hasRuns_iff.mp hruns⟩
  · intro first second runs others hfirst hsecond hrecased
    rw [fieldName, fieldName, typeName, typeName, words_eq_of_recased hfirst hsecond hrecased]
    exact ⟨rfl, rfl⟩

/-- The words of the second name are the words of the first one, two of them in the other case. -/
theorem user_id_converts_alike :
    HasRuns ("USER_id--2FA" : String).toList ["USER".toList, "id".toList, "2FA".toList] ∧
      HasRuns (" user ID 2FA." : String).toList ["user".toList, "ID".toList, "2FA".toList] ∧
      fieldName "USER_id--2FA" = fieldName " user ID 2FA." ∧
      typeName "USER_id--2FA" = typeName " user ID 2FA." := by
  have hfirst : HasRuns ("USER_id--2FA" : String).toList
      ["USER".toList, "id".toList, "2FA".toList] := hasRuns_iff.mpr (by decide +kernel)
  have hsecond : HasRuns (" user ID 2FA." : String).toList
      ["user".toList, "ID".toList, "2FA".toList] := hasRuns_iff.mpr (by decide +kernel)
  have huser : Recased ("USER" : String).toList ("user" : String).toList :=
    Or.inr ⟨"user".toList, by decide, Or.inl (by decide)⟩
  have hid : Recased ("id" : String).toList ("ID" : String).toList :=
    Or.inr ⟨"id".toList, by decide, Or.inr (by decide)⟩
  have hrecased : List.Forall₂ Recased ["USER".toList, "id".toList, "2FA".toList]
      ["user".toList, "ID".toList, "2FA".toList] :=
    .cons huser (.cons hid (.cons (Or.inl rfl) .nil))
  exact ⟨hfirst, hsecond, names_convert_alike.2 _ _ _ _ hfirst hsecond hrecased⟩

end TableScribe.Java
