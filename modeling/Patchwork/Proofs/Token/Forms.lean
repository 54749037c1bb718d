import Patchwork.Proofs.Regex.Opening
import Patchwork.Text.Bytes

namespace Patchwork.Token

open Text

def isIdentifier : List Char → Bool := isWord Char.isAlpha isIdentifierPart

theorem isName_eq_isWord : GroupName.isName = isWord GroupName.isStart GroupName.isPart := by
  funext cs
  cases cs <;> rfl

def hasFields : Token → Bool
  | namedOpen .. | reference _ | call .. => true
  | _ => false

def IsFormed : Token → Prop
  | namedOpen _ name => GroupName.isName name.toList
  | reference id => isIdentifier id.toList
  | call id args => isIdentifier id.toList ∧ ')' ∉ args.toList
  | _ => True

def placeAfter (before : List Token) (t : Token) : Span :=
  ⟨byteLength (renders before), byteLength (renders before) + byteLength t.chars⟩

theorem splitIdentifier_of_isIdentifier {id : List Char} (h : isIdentifier id) {stop : Char}
    (hstop : isIdentifierPart stop = false) (next : List Char) :
    splitIdentifier (id ++ stop :: next) = some (id, stop :: next) :=
  splitWord_of_isWord h hstop next

theorem readName?_of_isName {name : List Char} (h : GroupName.isName name) (style : NameStyle)
    (rest : List Char) :
    readName? style (name ++ '>' :: rest) = some (namedOpen style (String.ofList name), rest) := by
  have hclose : GroupName.isPart '>' = false := by decide
  rw [isName_eq_isWord] at h
  have hsplit : splitName (name ++ '>' :: rest) = some (name, '>' :: rest) :=
    splitWord_of_isWord h hclose rest
  simp only [readName?, hsplit]

theorem isFormed_of_readName? {style : NameStyle} {cs rest : List Char} {t : Token}
    (h : readName? style cs = some (t, rest)) : t.IsFormed := by
  obtain ⟨name, rfl, -, hsplit⟩ := readName?_eq_some h
  have hword : isWord GroupName.isStart GroupName.isPart name := isWord_of_splitWord hsplit
  rw [← isName_eq_isWord] at hword
  simpa only [IsFormed, String.toList_ofList] using hword

theorem isFormed_readGroup (cs : List Char) : (readGroup cs).1.IsFormed := by
  fun_cases readGroup cs with
  | case1 cs =>
      cases h : readName? .plain cs with
      | none => trivial
      | some p => exact isFormed_of_readName? h
  | case2 cs =>
      cases h : readName? .withP cs with
      | none => trivial
      | some p => exact isFormed_of_readName? h
  | case3 => trivial
  | case4 => trivial

theorem isFormed_readDollar (cs : List Char) : (readDollar cs).1.IsFormed := by
  fun_cases readDollar cs with
  | case1 inside id rest hsplit =>
      have hid : isIdentifier id := isWord_of_splitWord hsplit
      simpa only [IsFormed, String.toList_ofList] using hid
  | case2 inside id more hsplit rest hclose =>
      have hid : isIdentifier id := isWord_of_splitWord hsplit
      have hargs : ')' ∉ more.takeWhile (· ≠ ')') := by
        intro hmem
        simpa using List.all_eq_true.1 List.all_takeWhile _ hmem
      simpa only [IsFormed, String.toList_ofList] using And.intro hid hargs
  | case3 | case4 | case5 => trivial

theorem isFormed_read (c : Char) (cs : List Char) : (read c cs).1.IsFormed := by
  unfold read
  split
  · cases cs <;> trivial
  split
  · trivial
  split
  · exact isFormed_readGroup cs
  split
  · exact isFormed_readDollar cs
  · trivial

theorem isFormed_of_mem_lexList {cs : List Char} : ∀ t ∈ lexList cs, t.IsFormed := by
  induction cs using lexList_induction with
  | nil => simp [lexList_nil]
  | step c cs ih =>
      rw [lexList_cons, List.forall_mem_cons]
      exact ⟨isFormed_read c cs, ih⟩

theorem chars_read_ne_nil (c : Char) (cs : List Char) : (read c cs).1.chars ≠ [] := by
  intro hnil
  have hlength := congrArg List.length (chars_read c cs)
  have hle := read_length c cs
  simp only [hnil, List.nil_append, List.length_cons] at hlength
  omega

theorem chars_ne_nil_of_mem_lexList {cs : List Char} : ∀ t ∈ lexList cs, t.chars ≠ [] := by
  induction cs using lexList_induction with
  | nil => simp [lexList_nil]
  | step c cs ih =>
      rw [lexList_cons, List.forall_mem_cons]
      exact ⟨chars_read_ne_nil c cs, ih⟩

theorem lexList_renders_of_append {cs : List Char} {before after : List Token}
    (h : lexList cs = before ++ after) : lexList (renders after) = after := by
  induction before generalizing cs with
  | nil => rw [← List.nil_append after, ← h, renders_lexList]
  | cons t before ih =>
      cases cs with
      | nil => simp [lexList_nil] at h
      | cons c cs =>
          rw [lexList_cons, List.cons_append] at h
          exact ih (List.cons.inj h).2

section Rendering

variable {id args name : String} {style : NameStyle}

theorem chars_reference_eq (id : String) : (reference id).chars = '$' :: '{' :: (id.toList ++ ['}']) := by
  have h := chars_reference id.toList
  rwa [String.ofList_toList] at h

theorem chars_call_eq (id args : String) :
    (call id args).chars = '$' :: '{' :: (id.toList ++ '(' :: (args.toList ++ [')', '}'])) := by
  have h := chars_call id.toList args.toList
  rwa [String.ofList_toList, String.ofList_toList, List.append_assoc] at h

theorem chars_namedOpen_eq (style : NameStyle) (name : String) :
    (namedOpen style name).chars = '(' :: (Regex.Item.lead style ++ (name.toList ++ ['>'])) := by
  have h := chars_namedOpen style name.toList
  rw [String.ofList_toList] at h
  cases style <;> simpa [NameStyle.opening, Regex.Item.lead] using h

theorem read_reference (h : (reference id).IsFormed) (rest : List Char) :
    read '$' ('{' :: (id.toList ++ '}' :: rest)) = (reference id, rest) := by
  have hsplit : splitIdentifier (id.toList ++ '}' :: rest) = some (id.toList, '}' :: rest) :=
    splitIdentifier_of_isIdentifier h (by decide) rest
  simp [read, readDollar, hsplit]

theorem read_call (h : (call id args).IsFormed) (rest : List Char) :
    read '$' ('{' :: (id.toList ++ '(' :: (args.toList ++ ')' :: '}' :: rest))) = (call id args, rest) := by
  obtain ⟨hid, hargs⟩ := h
  have hsplit (after : List Char) :
      splitIdentifier (id.toList ++ '(' :: after) = some (id.toList, '(' :: after) :=
    splitIdentifier_of_isIdentifier hid (by decide) after
  have hall : ∀ c ∈ args.toList, decide (c ≠ ')') = true := by
    intro c hc
    rw [decide_eq_true_eq]
    rintro rfl
    exact hargs hc
  have hread : readDollar ('{' :: (id.toList ++ '(' :: (args.toList ++ ')' :: '}' :: rest))) =
      (call id args, rest) := by
    simp only [readDollar, hsplit, List.dropWhile_append_of_pos hall, List.takeWhile_append_of_pos hall]
    simp
  exact hread

theorem read_namedOpen (h : (namedOpen style name).IsFormed) (rest : List Char) :
    read '(' (Regex.Item.lead style ++ (name.toList ++ '>' :: rest)) = (namedOpen style name, rest) := by
  have hname := readName?_of_isName h style rest
  rw [String.ofList_toList] at hname
  cases style <;> simp [read, readGroup, Regex.Item.lead, hname]

end Rendering

theorem lexList_of_isFormed {t : Token} (hfields : t.hasFields) (h : t.IsFormed) (rest : List Char) :
    lexList (t.chars ++ rest) = t :: lexList rest := by
  cases t with
  | text | escape | charClass | groupOpen | specialOpen => cases hfields
  | reference id =>
      rw [chars_reference_eq]
      simp only [List.cons_append, List.append_assoc, List.nil_append]
      rw [lexList_cons, read_reference h]
  | call id args =>
      rw [chars_call_eq]
      simp only [List.cons_append, List.append_assoc, List.nil_append]
      rw [lexList_cons, read_call h]
  | namedOpen style name =>
      rw [chars_namedOpen_eq]
      simp only [List.cons_append, List.append_assoc, List.nil_append]
      rw [lexList_cons, read_namedOpen h]

theorem readName_of_isFormed {style : NameStyle} {name : String} (h : (namedOpen style name).IsFormed)
    (rest : List Char) : Regex.Item.readName (name.toList ++ '>' :: rest) = some (name, rest) := by
  have hclose : GroupName.isStart '>' = false ∧ GroupName.isPart '>' = false := by decide
  have hmem : '>' ∉ name.toList := by
    intro hmem
    have hword : isWord GroupName.isStart GroupName.isPart name.toList := by
      rw [← isName_eq_isWord]
      exact h
    simpa [hclose] using mem_of_isWord hword _ hmem
  have hread := Regex.Item.readName_of_isName hmem h rest
  rwa [String.ofList_toList] at hread

/-- An opener with a name opens a group of that name for the engine too. -/
theorem readOpening_of_isFormed {style : NameStyle} {name : String}
    (h : (namedOpen style name).IsFormed) (rest : List Char) :
    Regex.Item.readOpening false ((namedOpen style name).chars.tail ++ rest) =
      some (.opening (.capture (some name)), rest) := by
  rw [chars_namedOpen_eq, List.tail_cons, List.append_assoc, List.append_assoc, List.cons_append,
    List.nil_append, Regex.Item.readOpening_lead, readName_of_isFormed h]
  rfl

theorem slice_placeAfter {source : String} {before after : List Token} {t : Token}
    (h : lex source = before ++ t :: after) :
    covers source (placeAfter before t) ∧ slice source (placeAfter before t) = t.render := by
  have hsource : source.toList = renders before ++ (t.chars ++ renders after) := by
    rw [← renders_lex source, h, renders_append, renders_cons]
  have hlength : (placeAfter before t).length = byteLength t.chars := Nat.add_sub_cancel_left ..
  constructor
  · have hstart := isBoundary_append (renders before) (t.chars ++ renders after)
    have hstop := isBoundary_append (renders before ++ t.chars) (renders after)
    rw [← hsource] at hstart
    rw [List.append_assoc, ← hsource, byteLength_append] at hstop
    simp [covers, placeAfter, hstart, hstop]
  · rw [slice, hlength, hsource, placeAfter, dropBytes_append, takeBytes_append]
    exact String.ofList_toList

theorem join_render_lex (source : String) : String.join ((lex source).map render) = source := by
  have hrenders : ((lex source).map render).flatMap String.toList = renders (lex source) :=
    List.flatMap_map ..
  rw [← String.ofList_toList (s := String.join _), String.toList_join, hrenders, renders_lex,
    String.ofList_toList]

/-- Nothing is lost, and forms are recognised exactly. The tokens of a source make up its text; each is a
stretch of it, between two boundaries of characters and not empty, and is the rendering of its fields
there. The fields are well-formed, a name as the engine would have it; and where the text goes on at the
end of a token with the rendering of a form, that form is the next token. -/
theorem lex_recognises (source : String) :
    String.join ((lex source).map render) = source ∧
      (∀ before t after, lex source = before ++ t :: after →
        t.render ≠ "" ∧ covers source (placeAfter before t) ∧
          slice source (placeAfter before t) = t.render ∧ t.IsFormed ∧
          ∀ style name, t = namedOpen style name → ∀ rest,
            Regex.Item.readOpening false (t.chars.tail ++ rest) =
              some (.opening (.capture (some name)), rest)) ∧
      ∀ before after t rest, lex source = before ++ after → t.hasFields → t.IsFormed →
        source.toList = renders before ++ (t.chars ++ rest) → ∃ later, after = t :: later := by
  refine ⟨join_render_lex source, ?_, ?_⟩
  · intro before t after h
    have hmem : t ∈ lexList source.toList := by
      change t ∈ lex source
      rw [h]
      exact List.mem_append_right _ List.mem_cons_self
    have hformed := isFormed_of_mem_lexList t hmem
    have hne : t.render ≠ "" := by
      intro hempty
      exact chars_ne_nil_of_mem_lexList t hmem (by rw [chars, hempty]; rfl)
    obtain ⟨hcovers, hslice⟩ := slice_placeAfter h
    refine ⟨hne, hcovers, hslice, hformed, ?_⟩
    rintro style name rfl rest
    exact readOpening_of_isFormed hformed rest
  · intro before after t rest h hfields hformed hsource
    have hafter : renders after = t.chars ++ rest := by
      rw [← renders_lex source, h, renders_append] at hsource
      exact List.append_cancel_left hsource
    refine ⟨lexList rest, ?_⟩
    rw [← lexList_renders_of_append h, hafter, lexList_of_isFormed hfields hformed]

/-- A reference behind a character of two bytes is a token of its own, from byte 2 to byte 7. -/
theorem lex_recognises_reference :
    lex "é${a1}(?P<n>" = [text "é"] ++ reference "a1" :: [namedOpen .withP "n"] ∧
      slice "é${a1}(?P<n>" ⟨2, 7⟩ = "${a1}" ∧
      ∃ later, [reference "a1", namedOpen .withP "n"] = reference "a1" :: later := by
  have hlex : lex "é${a1}(?P<n>" = [text "é"] ++ reference "a1" :: [namedOpen .withP "n"] := by decide +kernel
  obtain ⟨-, hplaces, hforms⟩ := lex_recognises "é${a1}(?P<n>"
  have hslice := (hplaces [text "é"] (reference "a1") [namedOpen .withP "n"] hlex).2.2.1
  exact ⟨hlex, hslice, hforms [text "é"] _ (reference "a1") "(?P<n>".toList hlex rfl rfl (by decide)⟩

end Patchwork.Token
