/-
Names that are converted twice.  The accessors of a field are named by the name of the field as the
name of a type, so a converted name is cut into words again.  Of its letters and numbers it is one
word, and what gets lost is the case of its first character, and that of the whole name where it has
no lower case letter.
-/
import TableScribe.Proofs.Java.LegalNames
import TableScribe.Proofs.Java.Words

namespace TableScribe.Java

open Unicode

section

variable {text : List Char}

/-- The low line of repair stands between no words. -/
theorem words_safeIdentifier (text : List Char) : words (safeIdentifier text) = words text := by
  unfold safeIdentifier
  split
  · have hline : ∀ c ∈ ['_'], isAlphanumeric c = false :=
      List.forall_mem_singleton.mpr (by decide)
    rw [words_eq, words_eq, ← List.singleton_append, fullRuns_append_of_gap hline]
  · rfl

theorem words_of_forall (hne : text ≠ []) (htext : ∀ c ∈ text, isAlphanumeric c = true) :
    words text = [normalizeWord text] := by
  rw [words_eq, fullRuns, runs_of_forall htext]
  simp [hne]

theorem upperCamel_words_of_forall (htext : ∀ c ∈ text, isAlphanumeric c = true) :
    upperCamel (words text) = capitalize (normalizeWord text) := by
  by_cases hne : text = []
  · subst hne
    rfl
  · rw [words_of_forall hne htext, upperCamel, List.flatMap_singleton]

theorem normalizeWord_of_any (hlower : text.any isLowercase = true) : normalizeWord text = text :=
  if_pos hlower

end

/-- All characters but the low line. -/
def lineFreeRanges : List (Nat × Nat) := [(0x0, 0x5E), (0x60, 0x10FFFF)]

theorem settled_lineFreeRanges : Settled (inRanges lineFreeRanges) := settled_inRanges (by decide)

theorem inRanges_lineFree {c : Char} (hc : c ≠ '_') : inRanges lineFreeRanges c = true := by
  have hvalid : c.toNat < 0xD800 ∨ 0xDFFF < c.toNat ∧ c.toNat < 0x110000 := c.valid
  have hne : c.toNat ≠ 0x5F := fun hcode => hc (Char.toNat_inj.mp hcode)
  simp only [inRanges, lineFreeRanges, List.any_cons, List.any_nil, Bool.or_eq_true,
    Bool.and_eq_true, decide_eq_true_eq]
  omega

/-- Camel case leaves no low line, since no letter or number has one in its upper or lower
case. -/
theorem line_not_mem_upperCamel (name : List Char) : '_' ∉ upperCamel (words name) := by
  have hall : (upperCamel (words name)).all (inRanges lineFreeRanges) = true := by
    rw [(resembles_upperCamel settled_lineFreeRanges name).all, List.all_eq_true]
    intro c hc
    have hline : isAlphanumeric '_' = false := by decide
    apply inRanges_lineFree
    rintro rfl
    exact Bool.false_ne_true (hline.symm.trans (List.mem_filter.mp hc).2)
  intro hmem
  have hline : inRanges lineFreeRanges '_' = false := by decide
  exact Bool.false_ne_true (hline.symm.trans (List.all_eq_true.mp hall _ hmem))

/-- Repair can be undone. -/
theorem safeIdentifier_inj {first second : List Char} (hfirst : '_' ∉ first)
    (hsecond : '_' ∉ second) : safeIdentifier first = safeIdentifier second ↔ first = second := by
  refine ⟨fun hsafe => ?_, congrArg safeIdentifier⟩
  unfold safeIdentifier at hsafe
  split at hsafe <;> split at hsafe
  · exact List.cons_injective hsafe
  · exact absurd (hsafe ▸ List.mem_cons_self) hsecond
  · exact absurd (hsafe ▸ List.mem_cons_self) hfirst
  · exact hsafe

/-- Two field names come to the same text once their words are in camel case again. -/
def SharesProperty (first second : String) : Prop :=
  upperCamel (words first.toList) = upperCamel (words second.toList)

/-- Names that come to one text in camel case are repaired alike, and others are not. -/
theorem typeName_eq_iff {first second : String} :
    typeName first = typeName second ↔ SharesProperty first second := by
  rw [typeName, typeName, String.ofList_inj,
    safeIdentifier_inj (line_not_mem_upperCamel _) (line_not_mem_upperCamel _), SharesProperty]

/-- Behind the low line of repair, a field name has letters and numbers only, one of them lower
case, and its first character comes back when it is put in upper case and then in lower case. -/
def Recoverable (field : String) : Prop :=
  ∃ body, field.toList = safeIdentifier body ∧ (∀ c ∈ body, isAlphanumeric c = true) ∧
    body.any isLowercase = true ∧ decapitalize (capitalize body) = body

/-- A recoverable name can be read off the text it comes to. -/
theorem Recoverable.eq_of_sharesProperty {first second : String} (hfirst : Recoverable first)
    (hsecond : Recoverable second) (hshares : SharesProperty first second) : first = second := by
  obtain ⟨body, htext, hbody, hlower, hback⟩ := hfirst
  obtain ⟨other, htext', hother, hlower', hback'⟩ := hsecond
  rw [SharesProperty, htext, htext', words_safeIdentifier, words_safeIdentifier,
    upperCamel_words_of_forall hbody, upperCamel_words_of_forall hother,
    normalizeWord_of_any hlower, normalizeWord_of_any hlower'] at hshares
  have hsame : body = other := by rw [← hback, hshares, hback']
  rw [← String.toList_inj, htext, htext', hsame]

section

variable {c : Char}

theorem toNat_lt_of_isAlphanum (hc : c.isAlphanum = true) : c.toNat < 0x80 := by
  have hcode (last : Char) : c.val ≤ last.val ↔ c.toNat ≤ last.toNat := UInt32.le_iff_toNat_le
  have hranges : (decide ('A'.val ≤ c.val ∧ c.val ≤ 'Z'.val) ||
      ('a'.val ≤ c.val && c.val ≤ 'z'.val) || ('0'.val ≤ c.val && c.val ≤ '9'.val)) = true := hc
  simp only [Bool.or_eq_true, Bool.and_eq_true, decide_eq_true_eq, hcode] at hranges
  have hupper : 'Z'.toNat = 0x5A := rfl
  have hlower : 'z'.toNat = 0x7A := rfl
  have hdigit : '9'.toNat = 0x39 := rfl
  omega

theorem isAlphanumeric_of_isAlphanum (hc : c.isAlphanum = true) : isAlphanumeric c = true := by
  rw [isAlphanumeric, if_pos (toNat_lt_of_isAlphanum hc)]
  exact hc

theorem isAlphanum_toUpper (hc : c.isAlphanum = true) : c.toUpper.isAlphanum = true :=
  Text.of_isAscii (P := fun c => c.isAlphanum = true → c.toUpper.isAlphanum = true)
    (by decide +kernel) (toNat_lt_of_isAlphanum hc) hc

theorem isAlphanum_toLower (hc : c.isAlphanum = true) : c.toLower.isAlphanum = true :=
  Text.of_isAscii (P := fun c => c.isAlphanum = true → c.toLower.isAlphanum = true)
    (by decide +kernel) (toNat_lt_of_isAlphanum hc) hc

theorem isUpper_toLower (hc : c.isAlphanum = true) : c.toLower.isUpper = false :=
  Text.of_isAscii (P := fun c => c.toLower.isUpper = false) (by decide +kernel)
    (toNat_lt_of_isAlphanum hc)

theorem toLower_of_not_isUpper (hc : c.isAlphanum = true) (hupper : c.isUpper = false) :
    c.toLower = c :=
  Text.of_isAscii (P := fun c => c.isUpper = false → c.toLower = c) (by decide +kernel)
    (toNat_lt_of_isAlphanum hc) hupper

theorem toUpper_of_not_isLower (hc : c.isAlphanum = true) (hlower : c.isLower = false) :
    c.toUpper = c :=
  Text.of_isAscii (P := fun c => c.isLower = false → c.toUpper = c) (by decide +kernel)
    (toNat_lt_of_isAlphanum hc) hlower

end

/-- The letters and numbers of a name are those of ASCII. -/
def HasAsciiWords (name : List Char) : Prop := ∀ c ∈ name, isAlphanumeric c = true → c.toNat < 0x80

instance (name : List Char) : Decidable (HasAsciiWords name) :=
  List.decidableBAll (fun c => isAlphanumeric c = true → c.toNat < 0x80) name

/-- A piece of ASCII letters and digits. -/
def IsAsciiWord (word : List Char) : Prop := word ≠ [] ∧ ∀ c ∈ word, c.isAlphanum = true

section

variable {word : List Char} (hword : ∀ c ∈ word, c.isAlphanum = true)

include hword

theorem normalizeWord_alphanum :
    normalizeWord word = if word.any Char.isLower then word else word.map Char.toLower :=
  normalizeWord_ascii fun c hc => toNat_lt_of_isAlphanum (hword c hc)

theorem isAlphanum_normalizeWord : ∀ c ∈ normalizeWord word, c.isAlphanum = true := by
  rw [normalizeWord_alphanum hword]
  split
  · exact hword
  · simpa using fun c hc => isAlphanum_toLower (hword c hc)

theorem capitalize_alphanum : capitalize word = word.modifyHead Char.toUpper := by
  cases word with
  | nil => rfl
  | cons first rest =>
      have hfirst := toNat_lt_of_isAlphanum (hword first List.mem_cons_self)
      rw [capitalize, upperCase, if_pos hfirst, List.singleton_append, List.modifyHead_cons]

theorem decapitalize_alphanum : decapitalize word = word.modifyHead Char.toLower := by
  cases word with
  | nil => rfl
  | cons first rest =>
      have hfirst := toNat_lt_of_isAlphanum (hword first List.mem_cons_self)
      rw [decapitalize, lowerCase, if_pos hfirst, List.singleton_append, List.modifyHead_cons]

theorem isAlphanum_capitalize : ∀ c ∈ capitalize word, c.isAlphanum = true := by
  rw [capitalize_alphanum hword]
  cases word with
  | nil => exact hword
  | cons first rest =>
      obtain ⟨hfirst, hrest⟩ := List.forall_mem_cons.mp hword
      exact List.forall_mem_cons.mpr ⟨isAlphanum_toUpper hfirst, hrest⟩

end

/-- The words of a name with ASCII words. -/
theorem isAsciiWord_of_mem_words {name : List Char} (hname : HasAsciiWords name) {word : List Char}
    (hword : word ∈ words name) : IsAsciiWord word := by
  obtain ⟨run, hrun, rfl⟩ := List.mem_map.mp hword
  obtain ⟨hrun, hne⟩ := List.mem_filter.mp hrun
  have hchars : ∀ c ∈ run, c.isAlphanum = true := by
    intro c hc
    have hmem : c ∈ name.filter isAlphanumeric := by
      rw [← flatten_runs]
      exact List.mem_flatten_of_mem hrun hc
    obtain ⟨hmem, halphanumeric⟩ := List.mem_filter.mp hmem
    rwa [isAlphanumeric, if_pos (hname c hmem halphanumeric)] at halphanumeric
  refine ⟨?_, isAlphanum_normalizeWord hchars⟩
  intro hempty
  have hresembles := (resembles_normalizeWord settled_isDigit run).isEmpty
  rw [hempty] at hresembles
  simp [← hresembles] at hne

/-- ASCII letters and digits of which the first one is no capital letter: what camel case makes of
ASCII words, and what it leaves as it is. -/
structure IsAsciiCamel (text : List Char) : Prop where
  isAlphanum : ∀ c ∈ text, c.isAlphanum = true
  isUpper_head : ∀ c ∈ text.head?, c.isUpper = false

section

variable {parts : List (List Char)} (hparts : ∀ word ∈ parts, IsAsciiWord word)

include hparts

/-- Camel case keeps to letters and digits of ASCII, and puts the first one in lower case. -/
theorem isAsciiCamel_lowerCamel : IsAsciiCamel (lowerCamel parts) := by
  cases parts with
  | nil => exact ⟨nofun, nofun⟩
  | cons first rest =>
      obtain ⟨⟨hne, hfirst⟩, hrest⟩ := List.forall_mem_cons.mp hparts
      obtain ⟨c, others, rfl⟩ := List.exists_cons_of_ne_nil hne
      obtain ⟨hc, hothers⟩ := List.forall_mem_cons.mp hfirst
      rw [lowerCamel, decapitalize_alphanum hfirst, List.modifyHead_cons, List.cons_append]
      constructor
      · have hrest : ∀ d ∈ rest.flatMap capitalize, d.isAlphanum = true := by
          intro d hd
          obtain ⟨word, hword, hd⟩ := List.mem_flatMap.mp hd
          exact isAlphanum_capitalize (hrest word hword).2 d hd
        exact List.forall_mem_cons.mpr
          ⟨isAlphanum_toLower hc, List.forall_mem_append.mpr ⟨hothers, hrest⟩⟩
      · rintro d ⟨⟩
        exact isUpper_toLower hc

/-- Words in camel case differ only in their first character, by its case. -/
theorem capitalize_lowerCamel : capitalize (lowerCamel parts) = upperCamel parts := by
  have hcamel := (isAsciiCamel_lowerCamel hparts).isAlphanum
  cases parts with
  | nil => rfl
  | cons first rest =>
      obtain ⟨⟨hne, hfirst⟩, -⟩ := List.forall_mem_cons.mp hparts
      obtain ⟨c, others, rfl⟩ := List.exists_cons_of_ne_nil hne
      rw [capitalize_alphanum hcamel, lowerCamel, decapitalize_alphanum hfirst, upperCamel,
        List.flatMap_cons, capitalize_alphanum hfirst, List.modifyHead_cons, List.modifyHead_cons,
        List.cons_append, List.modifyHead_cons, Text.toUpper_toLower, List.cons_append]

end

namespace IsAsciiCamel

variable {text other : List Char}

theorem isAlphanumeric (htext : IsAsciiCamel text) : ∀ c ∈ text, isAlphanumeric c = true :=
  fun c hc => isAlphanumeric_of_isAlphanum (htext.isAlphanum c hc)

theorem toLower_head {c : Char} {rest : List Char} (htext : IsAsciiCamel (c :: rest)) :
    c.toLower = c :=
  toLower_of_not_isUpper (htext.isAlphanum c List.mem_cons_self) (htext.isUpper_head c rfl)

theorem decapitalize (htext : IsAsciiCamel text) : decapitalize text = text := by
  rw [decapitalize_alphanum htext.isAlphanum]
  cases text with
  | nil => rfl
  | cons c rest => rw [List.modifyHead_cons, htext.toLower_head]

/-- The first character comes back from its upper case. -/
theorem decapitalize_capitalize (htext : IsAsciiCamel text) :
    Java.decapitalize (capitalize text) = text := by
  rw [decapitalize_alphanum (isAlphanum_capitalize htext.isAlphanum),
    capitalize_alphanum htext.isAlphanum]
  cases text with
  | nil => rfl
  | cons c rest =>
      have hc := toNat_lt_of_isAlphanum (htext.isAlphanum c List.mem_cons_self)
      rw [List.modifyHead_cons, List.modifyHead_cons, toLower_toUpper hc, htext.toLower_head]

theorem map_toLower (htext : IsAsciiCamel text) : IsAsciiCamel (text.map Char.toLower) where
  isAlphanum := by simpa using fun c hc => isAlphanum_toLower (htext.isAlphanum c hc)
  isUpper_head := by
    cases text with
    | nil => exact nofun
    | cons c rest =>
        rintro d ⟨⟩
        exact isUpper_toLower (htext.isAlphanum c List.mem_cons_self)

theorem normalizeWord (htext : IsAsciiCamel text) : IsAsciiCamel (normalizeWord text) := by
  rw [normalizeWord_alphanum htext.isAlphanum]
  split
  · exact htext
  · exact htext.map_toLower

section

variable (htext : IsAsciiCamel text) (hother : IsAsciiCamel other)

include htext

theorem normalizeWord_map_toLower :
    Java.normalizeWord (text.map Char.toLower) = text.map Char.toLower :=
  Java.normalizeWord_map_toLower fun c hc => toNat_lt_of_isAlphanum (htext.isAlphanum c hc)

/-- A text without lower case letters is known from its lower case. -/
theorem map_toUpper_map_toLower (hlower : text.any Char.isLower = false) :
    (text.map Char.toLower).map Char.toUpper = text := by
  rw [List.map_map]
  have hsame : ∀ c ∈ text, (Char.toUpper ∘ Char.toLower) c = c := by
    intro c hc
    have hcapital : c.isLower = false := by simpa using List.any_eq_false.mp hlower c hc
    rw [Function.comp_apply, Text.toUpper_toLower]
    exact toUpper_of_not_isLower (htext.isAlphanum c hc) hcapital
  rw [List.map_congr_left hsame, List.map_id']

include hother

/-- Two texts come to one in camel case exactly if they come to one word. -/
theorem upperCamel_words_eq_iff :
    upperCamel (words text) = upperCamel (words other) ↔
      Java.normalizeWord text = Java.normalizeWord other := by
  rw [upperCamel_words_of_forall htext.isAlphanumeric,
    upperCamel_words_of_forall hother.isAlphanumeric]
  refine ⟨fun hsame => ?_, congrArg capitalize⟩
  rw [← htext.normalizeWord.decapitalize_capitalize, hsame,
    hother.normalizeWord.decapitalize_capitalize]

/-- Two texts come to one word if they are the same, or if one has no lower case letter and the
other one is the lower case of it. -/
theorem normalizeWord_eq_iff :
    Java.normalizeWord text = Java.normalizeWord other ↔
      text = other ∨ (text.any Char.isLower = false ∧ text.map Char.toLower = other) ∨
        (other.any Char.isLower = false ∧ other.map Char.toLower = text) := by
  constructor
  · intro hsame
    rw [normalizeWord_alphanum htext.isAlphanum, normalizeWord_alphanum hother.isAlphanum] at hsame
    cases hlower : text.any Char.isLower with
    | true =>
        cases hlower' : other.any Char.isLower with
        | true => exact Or.inl (by simpa [hlower, hlower'] using hsame)
        | false => exact Or.inr (Or.inr ⟨rfl, by simpa [hlower, hlower'] using hsame.symm⟩)
    | false =>
        cases hlower' : other.any Char.isLower with
        | true => exact Or.inr (Or.inl ⟨rfl, by simpa [hlower, hlower'] using hsame⟩)
        | false =>
            simp only [hlower, hlower', Bool.false_eq_true, if_false] at hsame
            left
            rw [← htext.map_toUpper_map_toLower hlower, hsame,
              hother.map_toUpper_map_toLower hlower']
  · rintro (rfl | ⟨hlower, rfl⟩ | ⟨hlower, rfl⟩)
    · rfl
    · rw [htext.normalizeWord_map_toLower, normalizeWord_alphanum htext.isAlphanum, hlower]
      rfl
    · rw [hother.normalizeWord_map_toLower, normalizeWord_alphanum hother.isAlphanum, hlower]
      rfl

end

theorem line_not_mem (htext : IsAsciiCamel text) : '_' ∉ text := by
  intro hmem
  exact absurd (htext.isAlphanum '_' hmem) (by decide)

theorem isDigit_or_isLower_head {c : Char} {rest : List Char} (htext : IsAsciiCamel (c :: rest)) :
    c.isDigit = true ∨ c.isLower = true := by
  have hc := htext.isAlphanum c List.mem_cons_self
  have hupper : c.isUpper = false := htext.isUpper_head c rfl
  have hcases : (c.isUpper || c.isLower || c.isDigit) = true := hc
  simpa [hupper, or_comm] using hcases

/-- What has no lower case letter is repaired, and so is its lower case. -/
theorem safeIdentifier_map_toLower (htext : IsAsciiCamel text)
    (hlower : text.any Char.isLower = false) :
    safeIdentifier (text.map Char.toLower) = (safeIdentifier text).map Char.toLower := by
  cases text with
  | nil => rfl
  | cons c rest =>
      have hdigit : c.isDigit = true := by
        apply htext.isDigit_or_isLower_head.resolve_right
        simpa using List.any_eq_false.mp hlower c List.mem_cons_self
      have hrepair (others : List Char) : safeIdentifier (c :: others) = '_' :: c :: others := by
        have hhead : (c :: others).head?.any Char.isDigit = true := hdigit
        rw [safeIdentifier, if_pos (needsRepair_iff.mpr (Or.inr (Or.inl hhead)))]
      rw [hrepair, List.map_cons, htext.toLower_head, hrepair, List.map_cons, List.map_cons,
        htext.toLower_head]
      rfl

end IsAsciiCamel

/-- The first text has no lower case letter, and the second one is its lower case. -/
def LowersTo (first second : String) : Prop :=
  first.toList.any Char.isLower = false ∧ Text.asciiLower first = second

instance (first second : String) : Decidable (LowersTo first second) :=
  inferInstanceAs (Decidable (_ ∧ _))

/-- Repair adds the same to a text without lower case letters and to its lower case. -/
theorem lowersTo_safeIdentifier_iff {text other : List Char} (htext : IsAsciiCamel text)
    (hother : IsAsciiCamel other) :
    LowersTo (String.ofList (safeIdentifier text)) (String.ofList (safeIdentifier other)) ↔
      text.any Char.isLower = false ∧ text.map Char.toLower = other := by
  have hnone : (safeIdentifier text).any Char.isLower = text.any Char.isLower := by
    have hall := @all_safeIdentifier text (fun c => !c.isLower) (by decide)
    rwa [← List.not_any_eq_all_not, ← List.not_any_eq_all_not, Bool.not_inj_iff] at hall
  rw [LowersTo, Text.asciiLower, String.toList_ofList, hnone]
  refine and_congr_right fun hlower => ?_
  rw [← htext.safeIdentifier_map_toLower hlower, String.ofList_inj,
    safeIdentifier_inj htext.map_toLower.line_not_mem hother.line_not_mem]

section

variable {name : String} (hname : HasAsciiWords name.toList)

include hname

/-- The camel case of a name with ASCII words. -/
theorem isAsciiCamel_words : IsAsciiCamel (lowerCamel (words name.toList)) :=
  isAsciiCamel_lowerCamel fun _ => isAsciiWord_of_mem_words hname

/-- Fields of ASCII names come to one text only if one of them has no lower case letter and the
other one is its lower case. -/
theorem sharesProperty_fieldName_iff {other : String} (hother : HasAsciiWords other.toList) :
    SharesProperty (fieldName name) (fieldName other) ↔
      fieldName name = fieldName other ∨ LowersTo (fieldName name) (fieldName other) ∨
        LowersTo (fieldName other) (fieldName name) := by
  have hcamel := isAsciiCamel_words hname
  have hcamel' := isAsciiCamel_words hother
  rw [SharesProperty, fieldName, fieldName, String.toList_ofList, String.toList_ofList,
    words_safeIdentifier, words_safeIdentifier, hcamel.upperCamel_words_eq_iff hcamel',
    hcamel.normalizeWord_eq_iff hcamel', lowersTo_safeIdentifier_iff hcamel hcamel',
    lowersTo_safeIdentifier_iff hcamel' hcamel, String.ofList_inj,
    safeIdentifier_inj hcamel.line_not_mem hcamel'.line_not_mem]

section

variable (hletter : ∃ c ∈ name.toList.find? isAlphanumeric, c.isAlpha = true)

include hletter

/-- In camel case a name that starts with a letter starts with a lower case letter. -/
theorem any_isLower_of_letter :
    (lowerCamel (words name.toList)).any Char.isLower = true := by
  have hcamel := isAsciiCamel_words hname
  have hresembles := resembles_lowerCamel settled_isDigit name.toList
  obtain ⟨first, hfirst, hletter⟩ := hletter
  have hdigit : first.isDigit = false :=
    Text.of_isAscii (P := fun c => c.isAlpha = true → c.isDigit = false) (by decide +kernel)
      (toNat_lt_of_isAlphanum (by simp [Char.isAlphanum, hletter])) hletter
  cases hletters : lowerCamel (words name.toList) with
  | nil =>
      have hempty := hresembles.isEmpty
      rw [hletters, eq_comm, List.isEmpty_nil, List.isEmpty_iff, List.filter_eq_nil_iff] at hempty
      exact absurd (List.find?_some hfirst) (hempty first (List.mem_of_find?_eq_some hfirst))
  | cons c rest =>
      rw [hletters] at hcamel hresembles
      have hhead := hresembles.first
      rw [List.head?_filter, hfirst, Option.any_some, hdigit] at hhead
      have hlower := hcamel.isDigit_or_isLower_head.resolve_left (Bool.eq_false_iff.mp hhead)
      rw [List.any_cons, hlower, Bool.true_or]

/-- A converted name that starts with a letter is one word, and converting it again changes nothing
but the case of that letter. -/
theorem converted_twice :
    fieldName (fieldName name) = fieldName name ∧ typeName (fieldName name) = typeName name := by
  have hcamel := isAsciiCamel_words hname
  have hlower := any_isLower_of_letter hname hletter
  have hne : lowerCamel (words name.toList) ≠ [] := by
    intro hempty
    rw [hempty] at hlower
    exact nomatch hlower
  have hwords : words (fieldName name).toList = [lowerCamel (words name.toList)] := by
    rw [fieldName, String.toList_ofList, words_safeIdentifier,
      words_of_forall hne hcamel.isAlphanumeric, normalizeWord_alphanum hcamel.isAlphanum, hlower,
      if_pos rfl]
  constructor
  · rw [fieldName, hwords, lowerCamel, hcamel.decapitalize, List.flatMap_nil, List.append_nil]
    rfl
  · rw [typeName, hwords, upperCamel, List.flatMap_singleton,
      capitalize_lowerCamel fun _ => isAsciiWord_of_mem_words hname]
    rfl

end

end

end TableScribe.Java
