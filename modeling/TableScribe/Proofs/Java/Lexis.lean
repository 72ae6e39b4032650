/-
Comments and string literals in Java source.  A reader goes through the source
character by character and tells comments and literals from all other code; it
takes no account of Unicode escapes.  The literal of a text is read back as the
text, and a documentation comment is read as one comment whatever it says.
-/
import Mathlib.Data.List.Chain
import TableScribe.Java.Comment
import TableScribe.Java.Literal

namespace TableScribe.Java

/-- A piece of source. -/
inductive Token
  /-- A comment, from its first slash on. -/
  | comment (source : List Char)
  /-- A string literal, by its value. -/
  | literal (value : List Char)
  /-- A character outside comments and literals. -/
  | code (c : Char)
deriving DecidableEq

/-- Whether a piece is a comment or a literal. -/
def Token.isNote : Token → Bool
  | comment _ | literal _ => true
  | code _ => false

/-- What a reader has before it, as far as it depends on what it has read. -/
inductive Mode
  | code
  /-- After a slash, which may start a comment. -/
  | slash
  /-- In a comment that runs to `*/`. -/
  | block (source : List Char)
  /-- In a comment that runs to the end of the line. -/
  | line (source : List Char)
  | literal (value : List Char)
  /-- After a backslash in a literal. -/
  | escape (value : List Char)
  /-- In an octal escape, with the number of digits that may still come. -/
  | octal (value : List Char) (number more : Nat)
  /-- After an empty literal, which may be the start of a text block. -/
  | emptyLiteral
deriving DecidableEq

/-- The character that an escape of one letter stands for. -/
def escaped? (c : Char) : Option Char :=
  ("btnfrs\"'\\".toList.zip "\x08\t\n\x0c\r \"'\\".toList).lookup c

/-- The value of an octal digit. -/
def octalDigit? (c : Char) : Option Nat :=
  if '0' ≤ c ∧ c ≤ '7' then some (c.toNat - '0'.toNat) else none

/-- A step in code.  Character literals are not read. -/
def stepCode (c : Char) : Option (List Token × Mode) :=
  if c = '/' then some ([], .slash)
  else if c = '"' then some ([], .literal [])
  else if c = '\'' then none
  else some ([.code c], .code)

/-- A step in a literal, which does not run over the end of a line. -/
def stepLiteral (value : List Char) (c : Char) : Option (List Token × Mode) :=
  if c = '"' then some ([.literal value], if value.isEmpty then .emptyLiteral else .code)
  else if c = '\\' then some ([], .escape value)
  else if c = '\n' ∨ c = '\r' then none
  else some ([], .literal (value ++ [c]))

/-- What comes of one more character: the pieces that end with it, and what is
before the reader then.  Text blocks are not read. -/
def step : Mode → Char → Option (List Token × Mode)
  | .code, c => stepCode c
  | .slash, c =>
    if c = '*' then some ([], .block ['/', '*'])
    else if c = '/' then some ([], .line ['/', '/'])
    else (stepCode c).map fun next => (.code '/' :: next.1, next.2)
  | .block source, c =>
    if c = '/' ∧ 2 < source.length ∧ source.getLast? = some '*' then
      some ([.comment (source ++ [c])], .code)
    else some ([], .block (source ++ [c]))
  | .line source, c =>
    if c = '\n' ∨ c = '\r' then some ([.comment source, .code c], .code)
    else some ([], .line (source ++ [c]))
  | .literal value, c => stepLiteral value c
  | .escape value, c =>
    match escaped? c, octalDigit? c with
    | some meant, _ => some ([], .literal (value ++ [meant]))
    | none, some digit => some ([], .octal value digit (if digit ≤ 3 then 2 else 1))
    | none, none => none
  | .octal value number more, c =>
    match octalDigit? c, more with
    | some digit, more + 1 => some ([], .octal value (number * 8 + digit) more)
    | _, _ => stepLiteral (value ++ [Char.ofNat number]) c
  | .emptyLiteral, c => if c = '"' then none else stepCode c

/-- What comes of a text. -/
def run : Mode → List Char → Option (List Token × Mode)
  | mode, [] => some ([], mode)
  | mode, c :: rest => do
    let (tokens, next) ← step mode c
    let (others, last) ← run next rest
    return (tokens ++ others, last)

/-- What is left at the end of the source. -/
def Mode.finish : Mode → Option (List Token)
  | code | emptyLiteral => some []
  | slash => some [.code '/']
  | line source => some [.comment source]
  | block _ | literal _ | escape _ | octal _ _ _ => none

/-- The pieces of a source, if it can be read. -/
def scan (source : List Char) : Option (List Token) := do
  let (tokens, mode) ← run .code source
  let others ← mode.finish
  return tokens ++ others

/-- A source is read in two steps, the second in the mode that the first ends
in. -/
theorem run_append (mode : Mode) (front rest : List Char) :
    run mode (front ++ rest) = do
      let (tokens, next) ← run mode front
      let (others, last) ← run next rest
      return (tokens ++ others, last) := by
  induction front generalizing mode with
  | nil =>
      cases hrest : run mode rest <;> simp [run, hrest]
  | cons c front ih =>
      simp only [List.cons_append, run, ih, bind_assoc, pure_bind, List.append_assoc]

theorem run_append_of_eq {mode middle last : Mode} {front rest : List Char}
    {tokens others : List Token} (hfront : run mode front = some (tokens, middle))
    (hrest : run middle rest = some (others, last)) :
    run mode (front ++ rest) = some (tokens ++ others, last) := by
  rw [run_append, hfront]
  simp [hrest]

/-- A character that means nothing to a reader of code. -/
def IsPlain (c : Char) : Prop := c ∉ ['"', '\\', '/', '\'', '\r']

instance (c : Char) : Decidable (IsPlain c) :=
  inferInstanceAs (Decidable (c ∉ ['"', '\\', '/', '\'', '\r']))

-- Decided along the list; the general instance would try every character there is.
instance (text : List Char) : Decidable (∀ c ∈ text, IsPlain c) :=
  List.decidableBAll IsPlain text

theorem stepCode_of_isPlain {c : Char} (hc : IsPlain c) : stepCode c = some ([.code c], .code) := by
  simp only [IsPlain, List.mem_cons, not_or] at hc
  simp [stepCode, hc]

/-- An escaped text is read as the text. -/
theorem run_escape (value text : List Char) :
    run (.literal value) (escape text) = some ([], .literal (value ++ text)) := by
  induction text generalizing value with
  | nil => simp [escape, run]
  | cons c rest ih =>
      have hchar : run (.literal value) (escapeChar c) = some ([], .literal (value ++ [c])) := by
        unfold escapeChar
        split_ifs with hquote hbackslash hfeed hreturn htab
        · subst hquote
          rfl
        · subst hbackslash
          rfl
        · subst hfeed
          rfl
        · subst hreturn
          rfl
        · subst htab
          rfl
        · simp [run, step, stepLiteral, hquote, hbackslash, hfeed, hreturn]
      have hrest := run_append_of_eq hchar (ih (value ++ [c]))
      rwa [List.append_assoc] at hrest

/-- A literal is read as its text, once the character after it is known. -/
theorem run_literal (text : List Char) {c : Char} (hc : IsPlain c) :
    run .code ('"' :: escape text ++ ['"', c]) = some ([.literal text, .code c], .code) := by
  have hopen : run .code ['"'] = some ([], .literal []) := rfl
  have hquote : c ≠ '"' := by
    rintro rfl
    exact absurd hc (by decide)
  have hclose : run (.literal text) ['"', c] = some ([.literal text, .code c], .code) := by
    cases text <;> simp [run, step, stepLiteral, stepCode_of_isPlain hc, hquote]
  exact run_append_of_eq hopen (run_append_of_eq (run_escape [] text) hclose)

/-- A text has no `*/` in it. -/
def Unclosed (text : List Char) : Prop := text.IsChain fun c next => ¬ (c = '*' ∧ next = '/')

instance (text : List Char) : Decidable (Unclosed text) :=
  inferInstanceAs (Decidable (text.IsChain fun c next => ¬ (c = '*' ∧ next = '/')))

/-- Two texts make up a `*/` only at the border between them. -/
theorem Unclosed.append {front rest : List Char} (hfront : Unclosed front) (hrest : Unclosed rest)
    (hborder : front.getLast? ≠ some '*' ∨ rest.head? ≠ some '/') : Unclosed (front ++ rest) := by
  refine List.isChain_append.mpr ⟨hfront, hrest, ?_⟩
  rintro c hc next hnext ⟨rfl, rfl⟩
  rcases hborder with hlast | hhead
  · exact hlast hc
  · exact hhead hnext

theorem head?_closeSafe (text : List Char) : (closeSafe text).head? = text.head? := by
  fun_cases closeSafe text <;> rfl

/-- Nothing in a comment closes it. -/
theorem unclosed_closeSafe (text : List Char) : Unclosed (closeSafe text) := by
  fun_induction closeSafe text with
  | case1 rest ih => exact .append (by decide) ih (Or.inl (by decide))
  | case2 c rest hopen ih =>
      refine List.isChain_cons.mpr ⟨?_, ih⟩
      rintro next hnext ⟨rfl, rfl⟩
      rw [head?_closeSafe] at hnext
      obtain ⟨tail, rfl⟩ := List.head?_eq_some_iff.mp hnext
      exact hopen tail rfl rfl
  | case3 => exact .nil

/-- The lines and tags of a comment have been made safe, and a gap is empty. -/
theorem unclosed_of_mem_commentItems {javadoc : Javadoc} {item : List Char}
    (hitem : item ∈ commentItems javadoc) : Unclosed item := by
  simp only [commentItems, List.mem_append, List.mem_map] at hitem
  rcases hitem with (⟨line, -, rfl⟩ | hgap) | ⟨tag, -, rfl⟩
  · exact unclosed_closeSafe _
  · split at hgap
    · exact nomatch hgap
    · obtain rfl := List.mem_singleton.mp hgap
      exact .nil
  · exact unclosed_closeSafe _

theorem unclosed_commentLine {item : List Char} (hitem : Unclosed item) :
    Unclosed (commentLine item) ∧ (commentLine item).getLast? = some '\n' := by
  unfold commentLine
  split
  · decide
  · refine ⟨?_, List.getLast?_concat⟩
    exact (Unclosed.append (by decide) hitem (Or.inl (by decide))).append (by decide)
      (Or.inr (by decide))

theorem unclosed_flatMap_commentLine {items : List (List Char)}
    (hitems : ∀ item ∈ items, Unclosed item) :
    Unclosed (items.flatMap commentLine) := by
  induction items with
  | nil => exact .nil
  | cons item rest ih =>
      obtain ⟨hitem, hrest⟩ := List.forall_mem_cons.mp hitems
      obtain ⟨hline, hlast⟩ := unclosed_commentLine hitem
      exact hline.append (ih hrest) (Or.inl (by simp [hlast]))

/-- A comment goes on as long as there is no `*/`, counted from the third
character. -/
theorem run_block {source text : List Char} (hsource : 2 ≤ source.length)
    (htext : Unclosed (source.drop 2 ++ text)) :
    run (.block source) text = some ([], .block (source ++ text)) := by
  induction text generalizing source with
  | nil => simp [run]
  | cons c rest ih =>
      have hopen : ¬ (c = '/' ∧ 2 < source.length ∧ source.getLast? = some '*') := by
        rintro ⟨hslash, hlength, hstar⟩
        have hlast : (source.drop 2).getLast? = some '*' := by
          rw [List.getLast?_drop, if_neg (by omega), hstar]
        exact (List.isChain_append.mp htext).2.2 '*' (by simp [hlast]) c (by simp) ⟨rfl, hslash⟩
      have hrest : Unclosed ((source ++ [c]).drop 2 ++ rest) := by
        rw [List.drop_append_of_le_length hsource, List.append_assoc]
        exact htext
      simp [run, step, hopen, @ih (source ++ [c]) (by simp; omega) hrest]

/-- Nothing in a comment closes it before its last two characters. -/
theorem exists_comment_eq (javadoc : Javadoc) :
    ∃ inner, comment javadoc = ['/', '*', '*'] ++ inner ++ ['*', '/'] ∧
      Unclosed (['/', '*', '*'] ++ inner ++ ['*']) := by
  have hitems := @unclosed_flatMap_commentLine (commentItems javadoc)
    fun item hitem => unclosed_of_mem_commentItems hitem
  refine ⟨['\n'] ++ (commentItems javadoc).flatMap commentLine ++ [' '], ?_, ?_⟩
  · simp [comment]
  · simp only [← List.append_assoc]
    exact ((Unclosed.append (by decide) hitems (Or.inl (by decide))).append (by decide)
      (Or.inr (by decide))).append (by decide) (Or.inr (by decide))

/-- A documentation comment is read as one comment, whatever it says. -/
theorem run_comment (javadoc : Javadoc) :
    run .code (comment javadoc) = some ([.comment (comment javadoc)], .code) := by
  obtain ⟨inner, hcomment, hunclosed⟩ := exists_comment_eq javadoc
  have hsplit : comment javadoc = ['/', '*'] ++ (['*'] ++ inner ++ ['*']) ++ ['/'] := by
    simp [hcomment]
  have hinner : Unclosed (['*'] ++ inner ++ ['*']) :=
    List.IsChain.suffix hunclosed (List.suffix_append ['/', '*'] _)
  have hopen : run .code ['/', '*'] = some ([], .block ['/', '*']) := rfl
  have hlast : (['/', '*'] ++ (['*'] ++ inner ++ ['*'])).getLast? = some '*' := by
    rw [← List.append_assoc, List.getLast?_concat]
  rw [hsplit]
  refine run_append_of_eq (run_append_of_eq hopen (run_block (by decide) hinner)) ?_
  rw [run, step, if_pos ⟨rfl, by simp, hlast⟩]
  rfl

end TableScribe.Java
