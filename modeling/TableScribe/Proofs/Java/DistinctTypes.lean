/-
Different types have different texts.  Where the names in two types have no marks in them,
the text of a type ends where it can be seen to end, whatever follows it, and tells the
names, the arguments and the dimensions at every level.
-/
import TableScribe.Proofs.Java.TypeText
import TableScribe.Proofs.Text.Spans

namespace TableScribe

namespace TypeRef

/-- The marks in the text of a type, and the dot. -/
def marks : List Char := ['.', ',', ' ', '<', '>', '[', ']']

/-- Every name in a type is a word without marks. -/
def PlainlyNamed (type : TypeRef) : Prop :=
  ∀ inner ∈ type.referenced, inner.name ≠ "" ∧ ∀ c ∈ inner.name.toList, c ∉ marks

-- Decided along the list; the general instance would try every character there is.
instance (name : String) : Decidable (∀ c ∈ name.toList, c ∉ marks) :=
  List.decidableBAll (· ∉ marks) name.toList

instance (type : TypeRef) : Decidable type.PlainlyNamed :=
  List.decidableBAll (fun inner : TypeRef => inner.name ≠ "" ∧ ∀ c ∈ inner.name.toList, c ∉ marks)
    type.referenced

/-- What can follow a type in a list of arguments. -/
def Follows (rest : List Char) : Prop := ∀ c ∈ rest.head?, c = ',' ∨ c = '>'

/-- Arguments, each after a comma. -/
def listedChars (types : List TypeRef) : List Char :=
  types.flatMap fun type => [',', ' '] ++ (type.written id).toList

def argumentChars : List TypeRef → List Char
  | [] => []
  | first :: others => '<' :: (first.written id).toList ++ listedChars others ++ ['>']

def dimensionChars (dims : Nat) : List Char := (List.replicate dims ['[', ']']).flatten

theorem written_ne_empty {type : TypeRef} (htype : type.PlainlyNamed) : type.written id ≠ "" := by
  obtain ⟨⟨hname, -⟩, -⟩ := forall_mem_referenced_iff.mp htype
  rw [written_eq, Java.typeText]
  split <;> simp [String.append_eq_empty_iff, hname]

theorem toList_written {type : TypeRef} (htype : type.PlainlyNamed) :
    (type.written id).toList =
      type.name.toList ++ (argumentChars type.generics ++ dimensionChars type.dims) := by
  obtain ⟨-, harguments⟩ := forall_mem_referenced_iff.mp htype
  have hkept : (type.generics.map (written id)).filter (fun text => !text.isEmpty) =
      type.generics.map (written id) := by
    rw [List.filter_eq_self, List.forall_mem_map]
    intro argument hargument
    simpa using written_ne_empty (harguments argument hargument)
  have hbrackets : (Java.brackets type.dims).toList = dimensionChars type.dims := by
    simp [Java.brackets, dimensionChars, List.flatMap_replicate]
  rw [written_eq, Java.typeText, ViewM.joinNonEmpty, hkept]
  cases hgenerics : type.generics with
  | nil => simp [argumentChars, hbrackets]
  | cons first others =>
      simp [argumentChars, listedChars, hbrackets, Text.intercalate_cons_eq_flatMap,
        List.flatMap_map]

/-- A word is cut off before the first mark in one way. -/
theorem word_append_injective {word other rest rest' : List Char} (hword : ∀ c ∈ word, c ∉ marks)
    (hother : ∀ c ∈ other, c ∉ marks) (hrest : ∀ c ∈ rest.head?, c ∈ marks)
    (hnext : ∀ c ∈ rest'.head?, c ∈ marks) (htext : word ++ rest = other ++ rest') :
    word = other ∧ rest = rest' := by
  have hcut (word rest : List Char) (hword : ∀ c ∈ word, c ∉ marks)
      (hrest : ∀ c ∈ rest.head?, c ∈ marks) : (word ++ rest).takeWhile (· ∉ marks) = word := by
    rw [List.takeWhile_append_of_pos (by simpa using hword)]
    cases rest with
    | nil => simp
    | cons c rest => simp [hrest c rfl]
  have hsame := hcut word rest hword hrest
  rw [htext, hcut other rest' hother hnext] at hsame
  subst hsame
  exact ⟨rfl, List.append_cancel_left htext⟩

theorem head?_dimensionChars_append {rest : List Char} (hrest : Follows rest) (dims : Nat) :
    ∀ c ∈ (dimensionChars dims ++ rest).head?, c ∈ ['[', ',', '>'] := by
  cases dims with
  | zero => simpa [dimensionChars, Follows] using fun c hc => Or.inr (hrest c hc)
  | succ dims => simp [dimensionChars, List.replicate_succ]

/-- After its name, a type goes on with a mark. -/
theorem head?_argumentChars_append {rest : List Char} (hrest : Follows rest)
    (types : List TypeRef) (dims : Nat) :
    ∀ c ∈ (argumentChars types ++ (dimensionChars dims ++ rest)).head?, c ∈ marks := by
  cases types with
  | nil =>
      intro c hc
      have hmark := head?_dimensionChars_append hrest dims c hc
      simp only [marks, List.mem_cons] at hmark ⊢
      tauto
  | cons type types => simp [argumentChars, marks]

theorem dimensionChars_append_injective {dims dims' : Nat} {rest rest' : List Char}
    (hrest : Follows rest) (hnext : Follows rest')
    (htext : dimensionChars dims ++ rest = dimensionChars dims' ++ rest') :
    dims = dims' ∧ rest = rest' := by
  induction dims generalizing dims' with
  | zero =>
      cases dims' with
      | zero => exact ⟨rfl, htext⟩
      | succ dims' =>
          obtain rfl : rest = '[' :: ']' :: (dimensionChars dims' ++ rest') := htext
          exact absurd (hrest _ rfl) (by decide)
  | succ dims ih =>
      cases dims' with
      | zero =>
          obtain rfl : '[' :: ']' :: (dimensionChars dims ++ rest) = rest' := htext
          exact absurd (hnext _ rfl) (by decide)
      | succ dims' =>
          obtain ⟨rfl, hsame⟩ := ih (List.cons.inj (List.cons.inj htext).2).2
          exact ⟨rfl, hsame⟩

/-- The text of a type tells the type and where the text ends. -/
def Tells (type : TypeRef) : Prop :=
  ∀ (other : TypeRef) (rest rest' : List Char), other.PlainlyNamed → Follows rest → Follows rest' →
    (type.written id).toList ++ rest = (other.written id).toList ++ rest' →
      type = other ∧ rest = rest'

theorem follows_listedChars (types : List TypeRef) (rest : List Char) :
    Follows (listedChars types ++ '>' :: rest) := by
  cases types <;> simp [listedChars, Follows]

theorem listedChars_append_injective {types others : List TypeRef} {rest rest' : List Char}
    (htypes : ∀ type ∈ types, type.Tells) (hothers : ∀ other ∈ others, other.PlainlyNamed)
    (htext : listedChars types ++ '>' :: rest = listedChars others ++ '>' :: rest') :
    types = others ∧ rest = rest' := by
  induction types generalizing others with
  | nil =>
      cases others with
      | nil => exact ⟨rfl, (List.cons.inj htext).2⟩
      | cons other others => simp [listedChars] at htext
  | cons type types ih =>
      cases others with
      | nil => simp [listedChars] at htext
      | cons other others =>
          obtain ⟨htype, htypes⟩ := List.forall_mem_cons.mp htypes
          obtain ⟨hother, hplain⟩ := List.forall_mem_cons.mp hothers
          have hfirst : (type.written id).toList ++ (listedChars types ++ '>' :: rest) =
              (other.written id).toList ++ (listedChars others ++ '>' :: rest') := by
            simpa [listedChars] using htext
          obtain ⟨rfl, hrest⟩ := htype other _ _ hother (follows_listedChars types rest)
            (follows_listedChars others rest') hfirst
          obtain ⟨rfl, hsame⟩ := ih htypes hplain hrest
          exact ⟨rfl, hsame⟩

theorem argumentChars_append_injective {types others : List TypeRef} {dims dims' : Nat}
    {rest rest' : List Char} (htypes : ∀ type ∈ types, type.Tells)
    (hothers : ∀ other ∈ others, other.PlainlyNamed) (hrest : Follows rest)
    (hnext : Follows rest')
    (htext : argumentChars types ++ (dimensionChars dims ++ rest) =
      argumentChars others ++ (dimensionChars dims' ++ rest')) :
    types = others ∧ dims = dims' ∧ rest = rest' := by
  cases types with
  | nil =>
      cases others with
      | nil => exact ⟨rfl, dimensionChars_append_injective hrest hnext htext⟩
      | cons other others =>
          have hopen := head?_dimensionChars_append hrest dims '<'
          simp only [argumentChars, List.nil_append] at htext
          exact absurd (hopen (by simp [htext])) (by decide)
  | cons type types =>
      cases others with
      | nil =>
          have hopen := head?_dimensionChars_append hnext dims' '<'
          simp only [argumentChars, List.nil_append] at htext
          exact absurd (hopen (by simp [← htext])) (by decide)
      | cons other others =>
          have hlisted : listedChars (type :: types) ++ '>' :: (dimensionChars dims ++ rest) =
              listedChars (other :: others) ++ '>' :: (dimensionChars dims' ++ rest') := by
            simpa [argumentChars, listedChars] using htext
          obtain ⟨hsame, hdims⟩ := listedChars_append_injective htypes hothers hlisted
          exact ⟨hsame, dimensionChars_append_injective hrest hnext hdims⟩

/-- The text of a type tells the type and where the text ends. -/
theorem tells {type : TypeRef} (htype : type.PlainlyNamed) : type.Tells := by
  induction type with
  | mk name generics dims ih =>
      rintro ⟨name', generics', dims'⟩ rest rest' hother hrest hnext htext
      obtain ⟨⟨-, hname⟩, harguments⟩ := forall_mem_referenced_iff.mp htype
      obtain ⟨⟨-, hname'⟩, harguments'⟩ := forall_mem_referenced_iff.mp hother
      rw [toList_written htype, toList_written hother] at htext
      simp only [List.append_assoc] at htext
      obtain ⟨hsame, htext⟩ := word_append_injective hname hname'
        (head?_argumentChars_append hrest generics dims)
        (head?_argumentChars_append hnext generics' dims') htext
      obtain ⟨rfl, rfl, rfl⟩ := argumentChars_append_injective
        (fun argument hargument => ih argument hargument (harguments argument hargument))
        harguments' hrest hnext htext
      obtain rfl := String.toList_inj.mp hsame
      exact ⟨rfl, rfl⟩

theorem written_id_injective {type other : TypeRef} (htype : type.PlainlyNamed)
    (hother : other.PlainlyNamed) (htext : type.written id = other.written id) : type = other := by
  have hnil : Follows [] := by simp [Follows]
  exact (tells htype other [] [] hother hnil hnil (by rw [htext])).1

/-- Names without dots are written as they are, whatever is being rendered around them. -/
theorem written_printedName {type : TypeRef} (htype : type.PlainlyNamed) (above : List Model) :
    type.written (Java.printedName above) = type.written id := by
  refine written_congr fun inner hinner => ?_
  obtain ⟨-, hmarks⟩ := htype inner hinner
  have hsimple : simpleName inner.name = inner.name :=
    simpleName_eq_self_iff.mpr fun hdot => hmarks '.' hdot (by decide)
  rw [Java.printedName, hsimple, ite_self, id]

end TypeRef

namespace Java

variable {α β : Type}

theorem render_plainlyNamed {driver : Program α} {moment : Moment α}
    (hreached : Moment.Reached Registry.java driver moment) {type : TypeRef}
    (htype : type.PlainlyNamed) (place : Place) :
    moment.generator.render ⟨.typeRef type, place⟩ =
      some (.ok (type.written id), moment.generator) := by
  have hnamed : ∀ inner ∈ type.referenced, inner.name ≠ "" :=
    fun inner hinner => (htype inner hinner).1
  rw [Moment.generator_of_reached hreached, Generator.render_enterAll_new java_descends,
    text_eq_written rfl hnamed, TypeRef.written_printedName htype]

/-- Types whose names have no marks in them are rendered, at any moment, and two of them
have one text only if they are one type. -/
theorem type_text_unambiguous {driver : Program α} {moment : Moment α}
    (hreached : Moment.Reached Registry.java driver moment) {driver' : Program β}
    {moment' : Moment β} (hreached' : Moment.Reached Registry.java driver' moment')
    {type other : TypeRef} (htype : type.PlainlyNamed) (hother : other.PlainlyNamed)
    (place place' : Place) :
    ∃ text text',
      moment.generator.render ⟨.typeRef type, place⟩ = some (.ok text, moment.generator) ∧
      moment'.generator.render ⟨.typeRef other, place'⟩ = some (.ok text', moment'.generator) ∧
      (text = text' ↔ type = other) := by
  refine ⟨_, _, render_plainlyNamed hreached htype place,
    render_plainlyNamed hreached' hother place', ?_, ?_⟩
  · exact TypeRef.written_id_injective htype hother
  · rintro rfl
    rfl

/-- Arguments inside an argument and arguments side by side. -/
theorem nested_and_sibling_arguments_differ :
    Moment.Reached Registry.java (.done ()) (Moment.start Registry.java (.done ())) ∧
      TypeRef.PlainlyNamed ⟨"M", [⟨"L", [.named "A", .named "B"], 1⟩], 0⟩ ∧
      TypeRef.PlainlyNamed ⟨"M", [⟨"L", [.named "A"], 0⟩, .array (.named "B")], 0⟩ ∧
      ∃ text text',
        (Generator.new Registry.java).render
            ⟨.typeRef ⟨"M", [⟨"L", [.named "A", .named "B"], 1⟩], 0⟩, default⟩ =
          some (.ok text, Generator.new Registry.java) ∧
        (Generator.new Registry.java).render
            ⟨.typeRef ⟨"M", [⟨"L", [.named "A"], 0⟩, .array (.named "B")], 0⟩, default⟩ =
          some (.ok text', Generator.new Registry.java) ∧
        text ≠ text' := by
  have hreached : Moment.Reached Registry.java (.done ()) (Moment.start Registry.java (.done ())) :=
    Relation.ReflTransGen.refl
  have hnested : TypeRef.PlainlyNamed ⟨"M", [⟨"L", [.named "A", .named "B"], 1⟩], 0⟩ := by decide
  have hsibling : TypeRef.PlainlyNamed ⟨"M", [⟨"L", [.named "A"], 0⟩, .array (.named "B")], 0⟩ := by
    decide
  obtain ⟨text, text', hrender, hrender', hiff⟩ :=
    type_text_unambiguous hreached hreached hnested hsibling default default
  exact ⟨hreached, hnested, hsibling, text, text', hrender, hrender',
    fun hsame => absurd (hiff.mp hsame) (by simp)⟩

end Java

end TableScribe
