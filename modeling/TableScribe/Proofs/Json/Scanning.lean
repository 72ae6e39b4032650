/-
Scanning what the grammar allows.  A text that spells a tree is scanned into that
tree, whatever white space and escapes it is written with.
-/
import TableScribe.Proofs.Json.Tokens

namespace TableScribe.Json

theorem isSpace_eq_false_of_isDigit {c : Char} (hc : c.isDigit = true) : isSpace c = false := by
  rw [Bool.eq_false_iff]
  intro hspace
  have hall : ∀ c ∈ [' ', '\t', '\n', '\r'], c.isDigit = false := by simp
  exact absurd hc (by simp [hall c (isSpace_iff.mp hspace)])

/-- A value starts with a character that is neither white space nor a closing
bracket. -/
theorem Tree.SpelledAs.exists_cons {tree : Tree} {text : List Char} (htree : tree.SpelledAs text) :
    ∃ c rest, text = c :: rest ∧ isSpace c = false ∧ c ≠ ']' := by
  cases htree with
  | null => exact ⟨_, _, rfl, by decide, by decide⟩
  | boolTrue => exact ⟨_, _, rfl, by decide, by decide⟩
  | boolFalse => exact ⟨_, _, rfl, by decide, by decide⟩
  | @number literal text hliteral =>
      have hend : IsDelimited [] := nofun
      obtain ⟨unsigned, rfl, ⟨c, hc, hdigit⟩, -⟩ := scanUnsigned_append hliteral hend
      obtain ⟨others, rfl⟩ := List.head?_eq_some_iff.mp hc
      cases literal.negative with
      | true => exact ⟨_, _, rfl, by decide, by decide⟩
      | false =>
          refine ⟨c, others, rfl, isSpace_eq_false_of_isDigit hdigit, ?_⟩
          rintro rfl
          exact absurd hdigit (by decide)
  | string hliteral =>
      obtain ⟨-, inside, -, rfl⟩ := hliteral
      exact ⟨_, _, rfl, by decide, by decide⟩
  | array => exact ⟨_, _, rfl, by decide, by decide⟩
  | object => exact ⟨_, _, rfl, by decide, by decide⟩

theorem isDelimited_cons {mark : Char} (hmark : mark.isDigit = false ∧ mark ∉ ['.', 'e', 'E'])
    (rest : List Char) : IsDelimited (mark :: rest) := by
  intro c hc
  exact Option.some.inj hc ▸ hmark

theorem IsBlank.isDelimited_append {space rest : List Char} (hspace : IsBlank space)
    (hrest : IsDelimited rest) : IsDelimited (space ++ rest) := by
  cases space with
  | nil => exact hrest
  | cons c others =>
      have hall : ∀ c ∈ [' ', '\t', '\n', '\r'], c.isDigit = false ∧ c ∉ ['.', 'e', 'E'] := by
        simp
      exact isDelimited_cons (hall c (hspace c List.mem_cons_self)) _

/-- A number may end where the items of an array go on or end. -/
theorem Items.SpelledAs.isDelimited {items : Items} {text : List Char}
    (hitems : items.SpelledAs false text) (rest : List Char) : IsDelimited (text ++ rest) := by
  cases hitems with
  | close hspace =>
      rw [List.append_assoc]
      exact hspace.isDelimited_append (isDelimited_cons (by decide) _)
  | item hlead =>
      obtain ⟨before, after, hbefore, -, rfl⟩ := hlead
      simp only [List.append_assoc]
      exact hbefore.isDelimited_append (isDelimited_cons (by decide) _)

/-- A number may end where the members of an object go on or end. -/
theorem Members.SpelledAs.isDelimited {members : Members} {text : List Char}
    (hmembers : members.SpelledAs false text) (rest : List Char) :
    IsDelimited (text ++ rest) := by
  cases hmembers with
  | close hspace =>
      rw [List.append_assoc]
      exact hspace.isDelimited_append (isDelimited_cons (by decide) _)
  | member hlead =>
      obtain ⟨before, after, hbefore, -, rfl⟩ := hlead
      simp only [List.append_assoc]
      exact hbefore.isDelimited_append (isDelimited_cons (by decide) _)

theorem scanWord_append (meant : Tree) (word rest : List Char) :
    scanWord meant word (word ++ rest) = (meant, rest) := by
  induction word with
  | nil => rfl
  | cons letter word ih => simpa [scanWord] using ih

theorem scanValue_space {space : List Char} (hspace : IsBlank space) (fuel : Nat)
    (text : List Char) : scanValue fuel (space ++ text) = scanValue fuel text := by
  cases fuel with
  | zero => simp only [scanValue]
  | succ fuel => simp only [scanValue, skipSpace_append hspace]

/-- A number is read as a value. -/
theorem scanValue_number {literal : NumberLiteral} {written rest : List Char} (fuel : Nat)
    (hliteral : literal.SpelledAs written) (hrest : IsDelimited rest) :
    scanValue (fuel + 1) (written ++ rest) = (.number literal, rest) := by
  obtain ⟨unsigned, hwritten, ⟨c, hc, hdigit⟩, hscan⟩ := scanUnsigned_append hliteral hrest
  cases hsign : literal.negative with
  | true =>
      rw [hsign] at hwritten hscan
      subst hwritten
      simp [scanValue, skipSpace_cons, isSpace, numberTree, hscan]
  | false =>
      obtain ⟨others, rfl⟩ := List.head?_eq_some_iff.mp hc
      rw [hsign] at hwritten hscan
      subst hwritten
      have hmark : ∀ mark ∈ ['n', 't', 'f', '"', '[', '\x7b', '-'], c ≠ mark := by
        rintro mark hmark rfl
        have hall : ∀ mark ∈ ['n', 't', 'f', '"', '[', '\x7b', '-'], mark.isDigit = false := by
          simp
        exact absurd hdigit (by simp [hall c hmark])
      have hspace := isSpace_eq_false_of_isDigit hdigit
      simp only [Bool.false_eq_true, if_false, List.nil_append, List.cons_append, scanValue,
        skipSpace_cons hspace]
      split
      case h_9 hsame =>
        obtain ⟨rfl, rfl⟩ := List.cons.inj hsame
        rw [if_pos hdigit, ← List.cons_append, hscan, numberTree]
      all_goals simp_all

theorem StringLiteral.SpelledAs.length_pos {literal : StringLiteral} {written : List Char}
    (hliteral : literal.SpelledAs written) : 0 < written.length := by
  obtain ⟨-, inside, -, rfl⟩ := hliteral
  simp

/-- No value is spelled by the empty text. -/
theorem Tree.SpelledAs.length_pos {tree : Tree} {written : List Char}
    (htree : tree.SpelledAs written) : 0 < written.length := by
  obtain ⟨c, others, rfl, -⟩ := htree.exists_cons
  simp

theorem Items.SpelledAs.length_pos {first : Bool} {items : Items} {written : List Char}
    (hitems : items.SpelledAs first written) : 0 < written.length := by
  cases hitems with
  | close => simp
  | item _ hvalue _ =>
      have hpos := hvalue.length_pos
      simp only [List.length_append]
      omega

theorem Members.SpelledAs.length_pos {first : Bool} {members : Members} {written : List Char}
    (hmembers : members.SpelledAs first written) : 0 < written.length := by
  cases hmembers with
  | close => simp
  | member _ _ _ hvalue _ =>
      have hpos := hvalue.length_pos
      simp only [List.length_append]
      omega

/-- Reads the inside of an array, from the first item or from a later one on. -/
def scanItems : Bool → Nat → List Char → Items × List Char
  | true => scanFirstItem
  | false => scanNextItem

/-- Reads the inside of an object, from the first member or from a later one on. -/
def scanMembers : Bool → Nat → List Char → Members × List Char
  | true => scanFirstMember
  | false => scanNextMember

section Steps

variable {fuel : Nat} {first : Bool} {lead text tail rest : List Char} {value : Tree}
  {items : Items} {members : Members}

theorem scanItems_close {space : List Char} (hspace : IsBlank space) :
    scanItems first (fuel + 1) (space ++ ']' :: rest) = (.close, rest) := by
  have hmark : isSpace ']' = false := rfl
  cases first with
  | true => simp only [scanItems, scanFirstItem, skipSpace_append hspace, skipSpace_cons hmark]
  | false => simp only [scanItems, scanNextItem, skipSpace_append hspace, skipSpace_cons hmark]

/-- An item is read behind what leads it, and the others behind it. -/
theorem scanItems_item (hlead : IsLead first lead)
    (htext : ∃ c others, text = c :: others ∧ isSpace c = false ∧ c ≠ ']')
    (hvalue : scanValue fuel text = (value, tail))
    (hitems : scanItems false fuel tail = (items, rest)) :
    scanItems first (fuel + 1) (lead ++ text) = (.item value items, rest) := by
  obtain ⟨c, others, rfl, hspace, hclose⟩ := htext
  simp only [scanItems] at hitems
  cases first with
  | true =>
      simp only [scanItems, scanFirstItem, skipSpace_append hlead, skipSpace_cons hspace, hvalue,
        hitems]
  | false =>
      obtain ⟨before, after, hbefore, hafter, rfl⟩ := hlead
      have hmark : isSpace ',' = false := rfl
      simp only [scanItems, scanNextItem, List.append_assoc, List.cons_append,
        skipSpace_append hbefore, skipSpace_append hafter, skipSpace_cons hmark,
        skipSpace_cons hspace, hvalue, hitems]

theorem scanMembers_close {space : List Char} (hspace : IsBlank space) :
    scanMembers first (fuel + 1) (space ++ '\x7d' :: rest) = (.close, rest) := by
  have hmark : isSpace '\x7d' = false := rfl
  cases first with
  | true =>
      simp only [scanMembers, scanFirstMember, skipSpace_append hspace, skipSpace_cons hmark]
  | false =>
      simp only [scanMembers, scanNextMember, skipSpace_append hspace, skipSpace_cons hmark]

theorem scanMembers_quote (hlead : IsLead first lead) :
    scanMembers first (fuel + 1) (lead ++ '"' :: text) = scanMember fuel text := by
  have hquote : isSpace '"' = false := rfl
  cases first with
  | true =>
      simp only [scanMembers, scanFirstMember, skipSpace_append hlead, skipSpace_cons hquote]
  | false =>
      obtain ⟨before, after, hbefore, hafter, rfl⟩ := hlead
      have hmark : isSpace ',' = false := rfl
      simp only [scanMembers, scanNextMember, List.append_assoc, List.cons_append,
        skipSpace_append hbefore, skipSpace_append hafter, skipSpace_cons hmark,
        skipSpace_cons hquote]

/-- A member is read as its key, a colon and its value, and the others behind
it. -/
theorem scanMembers_member {key : StringLiteral} {name colon : List Char}
    (hlead : IsLead first lead) (hkey : key.SpelledAs name) (hcolon : IsMark ':' colon)
    (hvalue : scanValue fuel text = (value, tail))
    (hmembers : scanMembers false fuel tail = (members, rest)) :
    scanMembers first (fuel + 2) (lead ++ (name ++ (colon ++ text))) =
      (.member key value members, rest) := by
  obtain ⟨before, after, hbefore, hafter, rfl⟩ := hcolon
  obtain ⟨pieces, fault⟩ := key
  obtain ⟨rfl, inside, hinside, rfl⟩ := hkey
  have hmark : isSpace ':' = false := rfl
  simp only [scanMembers] at hmembers
  simp only [List.append_assoc, List.cons_append, scanMembers_quote hlead, scanMember,
    scanString_of_spelledInside hinside, skipSpace_append hbefore, skipSpace_cons hmark,
    scanValue_space hafter, hvalue, hmembers]

end Steps

-- Every call leaves less of the text than of the fuel.
mutual

/-- A value is read up to its end. -/
theorem scanValue_append {fuel : Nat} {written rest : List Char} :
    (tree : Tree) → tree.SpelledAs written → written.length ≤ fuel → IsDelimited rest →
      scanValue fuel (written ++ rest) = (tree, rest)
  | tree, htree, hfuel, hrest => by
      obtain ⟨fuel, rfl⟩ := Nat.exists_eq_add_one.mpr (htree.length_pos.trans_le hfuel)
      match tree, htree with
      | _, .null => exact scanWord_append .null ['u', 'l', 'l'] rest
      | _, .boolTrue => exact scanWord_append (.bool true) ['r', 'u', 'e'] rest
      | _, .boolFalse => exact scanWord_append (.bool false) ['a', 'l', 's', 'e'] rest
      | _, .number hliteral => exact scanValue_number fuel hliteral hrest
      | .string literal, .string hliteral =>
          obtain ⟨pieces, fault⟩ := literal
          obtain ⟨rfl, inside, hinside, rfl⟩ := hliteral
          have hquote : isSpace '"' = false := rfl
          simp only [List.cons_append, scanValue, skipSpace_cons hquote,
            scanString_of_spelledInside hinside]
      | .array items, .array hitems =>
          have hscan := scanItems_append rest items hitems (Nat.le_of_succ_le_succ hfuel)
          have hmark : isSpace '[' = false := rfl
          simp only [scanItems] at hscan
          simp only [List.cons_append, scanValue, skipSpace_cons hmark, hscan]
      | .object members, .object hmembers =>
          have hscan := scanMembers_append rest members hmembers (Nat.le_of_succ_le_succ hfuel)
          have hmark : isSpace '\x7b' = false := rfl
          simp only [scanMembers] at hscan
          simp only [List.cons_append, scanValue, skipSpace_cons hmark, hscan]

/-- The inside of an array is read up to its end. -/
theorem scanItems_append {fuel : Nat} {first : Bool} {written : List Char} (rest : List Char) :
    (items : Items) → items.SpelledAs first written → written.length ≤ fuel →
      scanItems first fuel (written ++ rest) = (items, rest)
  | items, hitems, hfuel => by
      obtain ⟨fuel, rfl⟩ := Nat.exists_eq_add_one.mpr (hitems.length_pos.trans_le hfuel)
      match items, hitems with
      | .close, .close hspace =>
          rw [List.append_assoc]
          exact scanItems_close hspace
      | .item value others, .item hlead hvalue hothers =>
          have hvaluePos := hvalue.length_pos
          have hothersPos := hothers.length_pos
          simp only [List.length_append] at hfuel
          rw [List.append_assoc, List.append_assoc]
          apply scanItems_item hlead
          · obtain ⟨c, inside, rfl, hc⟩ := hvalue.exists_cons
            exact ⟨c, _, rfl, hc⟩
          · exact scanValue_append value hvalue (by omega) (hothers.isDelimited rest)
          · exact scanItems_append rest others hothers (by omega)

/-- The inside of an object is read up to its end. -/
theorem scanMembers_append {fuel : Nat} {first : Bool} {written : List Char} (rest : List Char) :
    (members : Members) → members.SpelledAs first written → written.length ≤ fuel →
      scanMembers first fuel (written ++ rest) = (members, rest)
  | members, hmembers, hfuel => by
      obtain ⟨fuel, rfl⟩ := Nat.exists_eq_add_one.mpr (hmembers.length_pos.trans_le hfuel)
      match members, hmembers with
      | .close, .close hspace =>
          rw [List.append_assoc]
          exact scanMembers_close hspace
      | .member key value others, .member hlead hkey hcolon hvalue hothers =>
          have hvaluePos := hvalue.length_pos
          have hothersPos := hothers.length_pos
          have hnamePos := hkey.length_pos
          simp only [List.length_append] at hfuel
          obtain ⟨fuel, rfl⟩ := Nat.exists_eq_add_one.mpr (show 0 < fuel by omega)
          simp only [List.append_assoc]
          apply scanMembers_member hlead hkey hcolon
          · exact scanValue_append value hvalue (by omega) (hothers.isDelimited rest)
          · exact scanMembers_append rest others hothers (by omega)

end

/-- A text that spells a tree is scanned into that tree. -/
theorem Tree.SpelledIn.scan {tree : Tree} {text : String} (htree : tree.SpelledIn text) :
    ∃ after, IsBlank after ∧ scan text.toList = (tree, after) := by
  obtain ⟨before, written, after, hbefore, hwritten, hafter, htext⟩ := htree
  refine ⟨after, hafter, ?_⟩
  rw [Json.scan, htext, scanValue_space hbefore]
  apply scanValue_append tree hwritten
  · simp only [List.length_append]
    omega
  · have hend : IsDelimited [] := nofun
    simpa using hafter.isDelimited_append hend

end TableScribe.Json
