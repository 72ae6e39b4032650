/-
Scanning nothing but what the grammar allows.  A text that is scanned into a tree
without faults spells that tree.
-/
import Mathlib.Logic.Unique
import TableScribe.Json.Shape
import TableScribe.Proofs.Json.Scanning

namespace TableScribe.Json

theorem IsBlank.append {before after : List Char} (hbefore : IsBlank before)
    (hafter : IsBlank after) : IsBlank (before ++ after) :=
  List.forall_mem_append.mpr ⟨hbefore, hafter⟩

theorem IsLead.append {first : Bool} {lead space : List Char} (hlead : IsLead first lead)
    (hspace : IsBlank space) : IsLead first (lead ++ space) := by
  cases first with
  | true => exact IsBlank.append hlead hspace
  | false =>
      obtain ⟨before, after, hbefore, hafter, rfl⟩ := hlead
      exact ⟨before, after ++ space, hbefore, hafter.append hspace, by simp⟩

theorem StringLiteral.skip_eq_ok_iff {literal : StringLiteral} :
    literal.skip = .ok () ↔ literal.fault = none := by
  rw [StringLiteral.skip]
  cases literal.fault <;> simp

theorem Items.skip_item_eq_ok_iff {value : Tree} {rest : Items} :
    (Items.item value rest).skip = .ok () ↔ value.skip = .ok () ∧ rest.skip = .ok () := by
  simp [Items.skip, Except.bind_eq_ok_iff, Unique.exists_iff]

theorem Members.skip_member_eq_ok_iff {key : StringLiteral} {value : Tree} {rest : Members} :
    (Members.member key value rest).skip = .ok () ↔
      key.fault = none ∧ value.skip = .ok () ∧ rest.skip = .ok () := by
  simp [Members.skip, Except.bind_eq_ok_iff, Unique.exists_iff, StringLiteral.skip_eq_ok_iff]

mutual

/-- A tree that can be spelled has no fault. -/
theorem Tree.skip_of_spelledAs {written : List Char} :
    (tree : Tree) → tree.SpelledAs written → tree.skip = .ok ()
  | _, .null => rfl
  | _, .boolTrue => rfl
  | _, .boolFalse => rfl
  | _, .number _ => rfl
  | .string _, .string hliteral => StringLiteral.skip_eq_ok_iff.mpr hliteral.1
  | .array items, .array hitems => Items.skip_of_spelledAs items hitems
  | .object members, .object hmembers => Members.skip_of_spelledAs members hmembers

theorem Items.skip_of_spelledAs {first : Bool} {written : List Char} :
    (items : Items) → items.SpelledAs first written → items.skip = .ok ()
  | _, .close _ => rfl
  | .item value others, .item _ hvalue hothers =>
      Items.skip_item_eq_ok_iff.mpr
        ⟨Tree.skip_of_spelledAs value hvalue, Items.skip_of_spelledAs others hothers⟩

theorem Members.skip_of_spelledAs {first : Bool} {written : List Char} :
    (members : Members) → members.SpelledAs first written → members.skip = .ok ()
  | _, .close _ => rfl
  | .member _ value others, .member _ hkey _ hvalue hothers =>
      Members.skip_member_eq_ok_iff.mpr
        ⟨hkey.1, Tree.skip_of_spelledAs value hvalue, Members.skip_of_spelledAs others hothers⟩

end

/-- The tree of a text has no fault. -/
theorem Tree.SpelledIn.skip {tree : Tree} {text : String} (htree : tree.SpelledIn text) :
    tree.skip = .ok () := by
  obtain ⟨-, written, -, -, hwritten, -⟩ := htree
  exact Tree.skip_of_spelledAs tree hwritten

/-- What was read at the start of a text is a value of the grammar, unless it has
a fault. -/
def ReadsTree (text : List Char) (scanned : Tree × List Char) : Prop :=
  scanned.1.skip = .ok () → ∃ space written, IsBlank space ∧ scanned.1.SpelledAs written ∧
    text = space ++ (written ++ scanned.2)

/-- What was read at the start of a text is the inside of an array, from the first
item or from a later one on, unless it has a fault. -/
def ReadsItems (first : Bool) (text : List Char) (scanned : Items × List Char) : Prop :=
  scanned.1.skip = .ok () → ∃ written, scanned.1.SpelledAs first written ∧
    text = written ++ scanned.2

/-- What was read at the start of a text is the inside of an object, from the
first member or from a later one on, unless it has a fault. -/
def ReadsMembers (first : Bool) (text : List Char) (scanned : Members × List Char) : Prop :=
  scanned.1.skip = .ok () → ∃ written, scanned.1.SpelledAs first written ∧
    text = written ++ scanned.2

section Steps

variable {first : Bool} {space lead text : List Char}

theorem ReadsTree.of_written {scanned : Tree × List Char}
    (hwritten : scanned.1.skip = .ok () → ∃ written, scanned.1.SpelledAs written ∧
      text = written ++ scanned.2) : ReadsTree text scanned := by
  intro hskip
  obtain ⟨written, htree, htext⟩ := hwritten hskip
  exact ⟨[], written, nofun, htree, htext⟩

theorem ReadsTree.blank_append {scanned : Tree × List Char} (hspace : IsBlank space)
    (htext : ReadsTree text scanned) : ReadsTree (space ++ text) scanned := by
  intro hskip
  obtain ⟨before, written, hbefore, htree, rfl⟩ := htext hskip
  exact ⟨space ++ before, written, hspace.append hbefore, htree, by simp⟩

theorem readsTree_scanWord {c : Char} {meant : Tree} {word : List Char}
    (hmeant : meant.SpelledAs (c :: word)) (text : List Char) :
    ReadsTree (c :: text) (scanWord meant word text) := by
  have hword : (scanWord meant word text).1.skip = .ok () →
      (scanWord meant word text).1 = meant ∧ text = word ++ (scanWord meant word text).2 := by
    clear hmeant
    induction word generalizing text with
    | nil => exact fun _ => ⟨rfl, rfl⟩
    | cons letter word ih =>
        intro hskip
        cases text with
        | nil => simp [scanWord, Tree.skip] at hskip
        | cons c others =>
            by_cases hc : c = letter
            · rw [scanWord, if_pos hc] at hskip ⊢
              obtain ⟨htree, hothers⟩ := ih others hskip
              exact ⟨htree, by rw [hc, List.cons_append, ← hothers]⟩
            · simp [scanWord, hc, Tree.skip] at hskip
  apply ReadsTree.of_written
  intro hskip
  obtain ⟨htree, htext⟩ := hword hskip
  exact ⟨c :: word, by rwa [htree], congrArg _ htext⟩

theorem readsTree_numberTree (negative : Bool) (text : List Char) :
    ReadsTree ((if negative then ['-'] else []) ++ text)
      (numberTree (scanUnsigned negative text)) := by
  apply ReadsTree.of_written
  intro hskip
  cases hscan : scanUnsigned negative text with
  | error fault =>
      rw [hscan] at hskip
      exact nomatch hskip
  | ok read =>
      obtain ⟨unsigned, hliteral, rfl⟩ := of_scanUnsigned hscan
      exact ⟨_, .number hliteral, by rw [List.append_assoc]; rfl⟩

theorem readsTree_string (text : List Char) :
    ReadsTree ('"' :: text) (.string (scanString text).1, (scanString text).2) := by
  apply ReadsTree.of_written
  intro hskip
  have hfault := StringLiteral.skip_eq_ok_iff.mp hskip
  obtain ⟨inside, hinside, htext⟩ := readsString_scanString text hfault
  exact ⟨'"' :: inside, .string ⟨hfault, inside, hinside, rfl⟩, congrArg _ htext⟩

theorem ReadsItems.array {scanned : Items × List Char} (hitems : ReadsItems true text scanned) :
    ReadsTree ('[' :: text) (.array scanned.1, scanned.2) := by
  apply ReadsTree.of_written
  intro hskip
  obtain ⟨inside, hinside, htext⟩ := hitems hskip
  exact ⟨'[' :: inside, .array hinside, congrArg _ htext⟩

theorem ReadsMembers.object {scanned : Members × List Char}
    (hmembers : ReadsMembers true text scanned) :
    ReadsTree ('\x7b' :: text) (.object scanned.1, scanned.2) := by
  apply ReadsTree.of_written
  intro hskip
  obtain ⟨inside, hinside, htext⟩ := hmembers hskip
  exact ⟨'\x7b' :: inside, .object hinside, congrArg _ htext⟩

theorem readsItems_close (hspace : IsBlank space) (rest : List Char) :
    ReadsItems first (space ++ ']' :: rest) (.close, rest) :=
  fun _ => ⟨space ++ [']'], .close hspace, by simp⟩

theorem ReadsTree.item {value : Tree × List Char} {others : Items × List Char}
    (hlead : IsLead first lead) (hvalue : ReadsTree text value)
    (hothers : ReadsItems false value.2 others) :
    ReadsItems first (lead ++ text) (.item value.1 others.1, others.2) := by
  intro hskip
  obtain ⟨hvalueSkip, hothersSkip⟩ := Items.skip_item_eq_ok_iff.mp hskip
  obtain ⟨space, written, hspace, hwritten, rfl⟩ := hvalue hvalueSkip
  obtain ⟨inside, hinside, htail⟩ := hothers hothersSkip
  exact ⟨_, .item (hlead.append hspace) hwritten hinside, by simp [htail]⟩

theorem readsMembers_close (hspace : IsBlank space) (rest : List Char) :
    ReadsMembers first (space ++ '\x7d' :: rest) (.close, rest) :=
  fun _ => ⟨space ++ ['\x7d'], .close hspace, by simp⟩

/-- A member is read if its value comes after a colon. -/
theorem readsMembers_member {value : Tree × List Char} {others : Members × List Char}
    (hlead : IsLead first lead)
    (hvalue : value.1.skip = .ok () → ∃ colon written, IsMark ':' colon ∧
      value.1.SpelledAs written ∧ (scanString text).2 = colon ++ (written ++ value.2))
    (hothers : ReadsMembers false value.2 others) :
    ReadsMembers first (lead ++ '"' :: text)
      (.member (scanString text).1 value.1 others.1, others.2) := by
  intro hskip
  obtain ⟨hfault, hvalueSkip, hothersSkip⟩ := Members.skip_member_eq_ok_iff.mp hskip
  obtain ⟨name, hname, htext⟩ := readsString_scanString text hfault
  obtain ⟨colon, written, hcolon, hwritten, hafter⟩ := hvalue hvalueSkip
  obtain ⟨inside, hinside, htail⟩ := hothers hothersSkip
  refine ⟨_, .member hlead ⟨hfault, name, hname, rfl⟩ hcolon hwritten hinside, ?_⟩
  rw [hafter, htail] at htext
  simp [htext]

end Steps

mutual

/-- A value that is read without a fault is one that the grammar allows. -/
theorem readsTree_scanValue : (fuel : Nat) → (text : List Char) →
    ReadsTree text (scanValue fuel text)
  | 0, _ => nofun
  | fuel + 1, text => by
      obtain ⟨space, hspace, htext⟩ := exists_blank_skipSpace text
      simp only [scanValue]
      generalize skipSpace text = start at htext ⊢
      subst htext
      apply ReadsTree.blank_append hspace
      split
      case h_1 => exact nofun
      case h_2 => exact readsTree_scanWord .null _
      case h_3 => exact readsTree_scanWord .boolTrue _
      case h_4 => exact readsTree_scanWord .boolFalse _
      case h_5 => exact readsTree_string _
      case h_6 => exact (readsItems_scanItems true fuel _).array
      case h_7 => exact (readsMembers_scanMembers true fuel _).object
      case h_8 => exact readsTree_numberTree true _
      case h_9 =>
        split_ifs
        · exact readsTree_numberTree false _
        · exact nofun

/-- The inside of an array that is read without a fault is one that the grammar
allows. -/
theorem readsItems_scanItems : (first : Bool) → (fuel : Nat) → (text : List Char) →
    ReadsItems first text (scanItems first fuel text)
  | true, 0, _ => nofun
  | false, 0, _ => nofun
  | true, fuel + 1, text => by
      obtain ⟨space, hspace, htext⟩ := exists_blank_skipSpace text
      simp only [scanItems, scanFirstItem]
      generalize skipSpace text = start at htext ⊢
      subst htext
      split
      case h_1 => exact nofun
      case h_2 => exact readsItems_close hspace _
      case h_3 =>
        have hlead : IsLead true space := hspace
        apply ReadsTree.item hlead (readsTree_scanValue fuel _)
        exact readsItems_scanItems false fuel _
  | false, fuel + 1, text => by
      obtain ⟨space, hspace, htext⟩ := exists_blank_skipSpace text
      simp only [scanItems, scanNextItem]
      generalize skipSpace text = start at htext ⊢
      subst htext
      split
      case h_1 => exact nofun
      case h_2 => exact readsItems_close hspace _
      case h_3 after =>
        obtain ⟨space', hspace', hafter⟩ := exists_blank_skipSpace after
        generalize skipSpace after = start at hafter ⊢
        subst hafter
        have hlead : IsLead false (space ++ ',' :: space') := ⟨space, space', hspace, hspace', rfl⟩
        rw [← List.cons_append, ← List.append_assoc]
        split
        case h_1 => exact nofun
        case h_2 => exact nofun
        case h_3 =>
          apply ReadsTree.item hlead (readsTree_scanValue fuel _)
          exact readsItems_scanItems false fuel _
      case h_4 => exact nofun

/-- The inside of an object that is read without a fault is one that the grammar
allows. -/
theorem readsMembers_scanMembers : (first : Bool) → (fuel : Nat) → (text : List Char) →
    ReadsMembers first text (scanMembers first fuel text)
  | true, 0, _ => nofun
  | false, 0, _ => nofun
  | true, fuel + 1, text => by
      obtain ⟨space, hspace, htext⟩ := exists_blank_skipSpace text
      simp only [scanMembers, scanFirstMember]
      generalize skipSpace text = start at htext ⊢
      subst htext
      split
      case h_1 => exact nofun
      case h_2 => exact readsMembers_close hspace _
      case h_3 =>
        have hlead : IsLead true space := hspace
        exact readsMembers_scanMember hlead fuel _
      case h_4 => exact nofun
  | false, fuel + 1, text => by
      obtain ⟨space, hspace, htext⟩ := exists_blank_skipSpace text
      simp only [scanMembers, scanNextMember]
      generalize skipSpace text = start at htext ⊢
      subst htext
      split
      case h_1 => exact nofun
      case h_2 => exact readsMembers_close hspace _
      case h_3 after =>
        obtain ⟨space', hspace', hafter⟩ := exists_blank_skipSpace after
        generalize skipSpace after = start at hafter ⊢
        subst hafter
        have hlead : IsLead false (space ++ ',' :: space') := ⟨space, space', hspace, hspace', rfl⟩
        rw [← List.cons_append, ← List.append_assoc]
        split
        case h_1 => exact nofun
        case h_2 => exact readsMembers_scanMember hlead fuel _
        case h_3 => exact nofun
      case h_4 => exact nofun

theorem readsMembers_scanMember {first : Bool} {lead : List Char} (hlead : IsLead first lead) :
    (fuel : Nat) → (text : List Char) →
      ReadsMembers first (lead ++ '"' :: text) (scanMember fuel text)
  | 0, _ => nofun
  | fuel + 1, text => by
      simp only [scanMember]
      apply readsMembers_member hlead
      · obtain ⟨space, hspace, hafter⟩ := exists_blank_skipSpace (scanString text).2
        generalize skipSpace (scanString text).2 = start at hafter ⊢
        split
        case h_1 => exact nofun
        case h_2 after =>
          intro hskip
          obtain ⟨space', written, hspace', hwritten, hvalue⟩ := readsTree_scanValue fuel _ hskip
          have hcolon : IsMark ':' (space ++ ':' :: space') := ⟨space, space', hspace, hspace', rfl⟩
          exact ⟨_, written, hcolon, hwritten, by simp [hafter, ← hvalue]⟩
        case h_3 => exact nofun
      · exact readsMembers_scanMembers false fuel _

end

/-- A text that is read without a fault up to white space spells its tree. -/
theorem spelledIn_of_scan {text : String} {tree : Tree} {after : List Char}
    (hscan : scan text.toList = (tree, after)) (hskip : tree.skip = .ok ())
    (hafter : skipSpace after = []) : tree.SpelledIn text := by
  have hread := readsTree_scanValue (3 * text.toList.length + 3) text.toList
  rw [← scan, hscan] at hread
  obtain ⟨space, written, hspace, hwritten, htext⟩ := hread hskip
  obtain ⟨blank, hblank, hrest⟩ := exists_blank_skipSpace after
  rw [hafter, List.append_nil] at hrest
  exact ⟨space, written, after, hspace, hwritten, hrest ▸ hblank, htext⟩

end TableScribe.Json
