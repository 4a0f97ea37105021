import SqlBuilder.Proofs.Value.Literal

/-!
# Decoding literals

What a literal holds can be read out of it again, whatever stands behind it: a reader that starts at the opening
quote finds the closing one, takes the escaping backslashes out of what is between, and puts characters for entities.

* `Text.closingQuote?`, `Text.literalBody?` : where the literal ends that a text begins with, and what it holds.
* `Text.unescape` : a body without its escaping backslashes; `Text.decodeEntities` : a text without its entities.
* `Text.readsBack_flatMap` : reading back what is written character by character.
* `Text.closingQuote?_quote`, `Text.literalBody?_quote` : the end and the body of a literal that is sealed.
* `literal_decodes` : the literals of texts and of documents give back what was written in them.
-/

namespace SqlBuilder

set_option autoImplicit false

namespace Text

/-! ## Reading a literal -/

/-- The number of characters before the quote that closes the literal in which a reader stands. -/
def lengthInside? : Mode → List Char → Option Nat
  | _, [] => none
  | mode, c :: cs =>
    if mode.next c = .bare then some 0 else (lengthInside? (mode.next c) cs).map fun n => n + 1

/-- The place of the quote that closes the literal with which a text begins. -/
def closingQuote? (s : String) : Option Nat :=
  match s.toList with
  | '\'' :: cs => (lengthInside? .quoted cs).map fun n => n + 1
  | _ => none

/-- What stands between the two quotes of the literal with which a text begins. -/
def literalBody? (s : String) : Option String :=
  (closingQuote? s).map fun place => String.ofList ((s.toList.take place).drop 1)

def unescapeChars : List Char → List Char
  | '\\' :: c :: cs => c :: unescapeChars cs
  | c :: cs => c :: unescapeChars cs
  | [] => []

/-- A text in which every backslash that escapes a character is left out. -/
def unescape (s : String) : String := String.ofList (unescapeChars s.toList)

def decodeChars : List Char → List Char
  | '&' :: 'q' :: 'u' :: 'o' :: 't' :: ';' :: cs => '"' :: decodeChars cs
  | '&' :: 'a' :: 'm' :: 'p' :: ';' :: cs => '&' :: decodeChars cs
  | '&' :: 'l' :: 't' :: ';' :: cs => '<' :: decodeChars cs
  | '&' :: 'g' :: 't' :: ';' :: cs => '>' :: decodeChars cs
  | c :: cs => c :: decodeChars cs
  | [] => []

/-- A text in which every entity is the character that it stands for, in one pass from the left. -/
def decodeEntities (s : String) : String := String.ofList (decodeChars s.toList)

/-! ## The end of a literal -/

theorem next_ne_bare_of_skeletonFrom {mode : Mode} {c : Char} {cs : List Char} (h : skeletonFrom mode (c :: cs) = []) :
    mode.next c ≠ .bare := by
  intro hnext
  have hkeeps : mode.keeps c = true := by simp [Mode.keeps, hnext]
  rw [skeletonFrom, if_pos hkeeps] at h
  cases h

theorem lengthInside?_append {mode : Mode} {cs : List Char} (h : skeletonFrom mode cs = []) (rest : List Char) :
    lengthInside? mode (cs ++ rest) = (lengthInside? (mode.after cs) rest).map fun n => n + cs.length := by
  induction cs generalizing mode with
  | nil =>
    have hafter : mode.after [] = mode := rfl
    rw [List.nil_append, hafter, List.length_nil]
    exact (congrFun Option.map_id _).symm
  | cons c cs ih =>
    have hafter : mode.after (c :: cs) = (mode.next c).after cs := rfl
    rw [List.cons_append, lengthInside?, if_neg (next_ne_bare_of_skeletonFrom h), ih (skeletonFrom_cons_eq_nil h).2,
      hafter, Option.map_map]
    rfl

theorem quote_injective : Function.Injective quote := by
  intro body other h
  have chars := congrArg String.toList h
  rw [toList_quote, toList_quote] at chars
  exact String.toList_inj.1 (List.append_cancel_right (List.cons.inj chars).2)

theorem toList_quote_append (body rest : String) :
    (quote body ++ rest).toList = '\'' :: (body.toList ++ '\'' :: rest.toList) := by
  rw [String.toList_append, toList_quote, List.cons_append, List.append_assoc, List.singleton_append]

theorem length_quote (body : String) : (quote body).length = body.toList.length + 2 := by
  rw [← String.length_toList, toList_quote, List.length_cons, List.length_append, List.length_singleton]

section Quoted
variable {body : String} (h : Sealed body.toList) (rest : String)
include h

theorem closingQuote?_quote : closingQuote? (quote body ++ rest) = some ((quote body).length - 1) := by
  have inside : lengthInside? .quoted (body.toList ++ '\'' :: rest.toList) = some body.toList.length := by
    rw [lengthInside?_append h.skeleton_eq, h.after_eq]
    simp [lengthInside?, Mode.next]
  rw [closingQuote?, toList_quote_append, length_quote]
  simp only [inside, Option.map_some]
  rfl

theorem literalBody?_quote : literalBody? (quote body ++ rest) = some body := by
  rw [literalBody?, closingQuote?_quote h, toList_quote_append, length_quote, Option.map_some]
  simp

end Quoted

/-! ## Reading back character by character -/

theorem readsBack_flatMap {read : List Char → List Char} {write plain : Char → List Char} (hnil : read [] = [])
    (h : ∀ c rest, read (write c ++ rest) = plain c ++ read rest) (cs : List Char) :
    read (cs.flatMap write) = cs.flatMap plain := by
  induction cs with
  | nil => exact hnil
  | cons c cs ih => rw [List.flatMap_cons, h, ih, List.flatMap_cons]

theorem readsBack_chars {read : List Char → List Char} {write : Char → List Char} (hnil : read [] = [])
    (h : ∀ c rest, read (write c ++ rest) = [c] ++ read rest) (cs : List Char) : read (cs.flatMap write) = cs :=
  (readsBack_flatMap hnil h cs).trans (List.flatMap_singleton' cs)

theorem unescapeChars_escaped (c : Char) (cs : List Char) : unescapeChars ('\\' :: c :: cs) = c :: unescapeChars cs := by
  rw [unescapeChars]

theorem unescapeChars_cons {c : Char} (hc : c ≠ '\\') (cs : List Char) :
    unescapeChars (c :: cs) = c :: unescapeChars cs := by
  rw [unescapeChars]
  exact fun _ _ e => absurd e hc

theorem unescapeChars_jsonChar (c : Char) (rest : List Char) :
    unescapeChars (jsonChar c ++ rest) = [c] ++ unescapeChars rest := by
  unfold jsonChar
  split
  case h_1 => exact unescapeChars_escaped _ rest
  case h_2 => exact unescapeChars_escaped _ rest
  case h_3 hslash hquote => exact unescapeChars_cons hslash rest

/-- How a character of a text stands in a literal once the backslashes are gone. -/
def entityChar : Char → List Char
  | '"' => ['&', 'q', 'u', 'o', 't', ';']
  | '&' => ['&', 'a', 'm', 'p', ';']
  | '<' => ['&', 'l', 't', ';']
  | '>' => ['&', 'g', 't', ';']
  | c => [c]

theorem unescapeChars_textChar (c : Char) (rest : List Char) :
    unescapeChars (textChar c ++ rest) = entityChar c ++ unescapeChars rest := by
  unfold textChar
  split
  -- Only of a plain character does it not compute: there `unescapeChars` has to know that it is no backslash.
  case h_7 hslash hquote hdouble hamp hless hgreater =>
    have plain : entityChar c = [c] := by
      unfold entityChar
      split <;> simp_all
    rw [plain]
    exact unescapeChars_cons hslash rest
  all_goals rfl

theorem decodeChars_cons {c : Char} (hc : c ≠ '&') (cs : List Char) : decodeChars (c :: cs) = c :: decodeChars cs := by
  rw [decodeChars]
  all_goals
    intros
    contradiction

theorem decodeChars_entityChar (c : Char) (rest : List Char) :
    decodeChars (entityChar c ++ rest) = [c] ++ decodeChars rest := by
  unfold entityChar
  split
  case h_5 hdouble hamp hless hgreater => exact decodeChars_cons hamp rest
  all_goals rfl

theorem unescape_jsonBody (s : String) : unescape (jsonBody s) = s := by
  rw [unescape, jsonBody, String.toList_ofList, readsBack_chars rfl unescapeChars_jsonChar, String.ofList_toList]

theorem decodeEntities_unescape_textBody (s : String) : decodeEntities (unescape (textBody s)) = s := by
  rw [decodeEntities, unescape, textBody, String.toList_ofList, String.toList_ofList,
    readsBack_flatMap rfl unescapeChars_textChar, readsBack_chars rfl decodeChars_entityChar, String.ofList_toList]

theorem textBody_injective : Function.Injective textBody :=
  Function.LeftInverse.injective (g := fun body => decodeEntities (unescape body)) decodeEntities_unescape_textBody

theorem jsonBody_injective : Function.Injective jsonBody := Function.LeftInverse.injective unescape_jsonBody

/-! ## Characters that do not stand in the body of a text -/

/-- The characters that mark up a page and are not used by entities. -/
def isMarkup (c : Char) : Bool := c = '"' || c = '<' || c = '>'

theorem all_not_isMarkup_textChar (c : Char) : (textChar c).all (fun d => !isMarkup d) = true := by
  unfold textChar
  split
  case h_7 hslash hquote hdouble hamp hless hgreater => simpa [isMarkup] using ⟨⟨hdouble, hless⟩, hgreater⟩
  all_goals decide

theorem not_mem_textBody_of_isMarkup {c : Char} (hc : isMarkup c = true) (s : String) : c ∉ (textBody s).toList := by
  intro h
  rw [textBody, String.toList_ofList, List.mem_flatMap] at h
  obtain ⟨d, -, hd⟩ := h
  have hnot := List.all_eq_true.1 (all_not_isMarkup_textChar d) c hd
  rw [hc] at hnot
  cases hnot

end Text

/-! ## Literals of values -/

namespace Value

theorem literal_text (s : String) : (text s).literal = Text.quote (Text.textBody s) := rfl

theorem literal_json (document : Json) : (json document).literal = Text.quote (Text.jsonBody document.compact) := rfl

theorem literal_text_inj {s t : String} : (text s).literal = (text t).literal ↔ s = t := by
  rw [literal_text, literal_text, Text.quote_injective.eq_iff, Text.textBody_injective.eq_iff]

theorem literal_json_inj {document other : Json} :
    (json document).literal = (json other).literal ↔ document.compact = other.compact := by
  rw [literal_json, literal_json, Text.quote_injective.eq_iff, Text.jsonBody_injective.eq_iff]

end Value

/-- A reader that starts at the opening quote of a literal closes it at its last character, whatever the literal holds
and whatever stands behind it. Of a text it reads a body without double quotes and angle brackets, and the body without
its backslashes and then without its entities is the text, so different texts have different literals. Of a document it
reads a body that is the compact text once the backslashes are gone. -/
theorem literal_decodes (s t : String) (document : Json) (rest : String) :
    Text.closingQuote? ((Value.text s).literal ++ rest) = some ((Value.text s).literal.length - 1) ∧
    (∃ body, Text.literalBody? ((Value.text s).literal ++ rest) = some body ∧
      Text.decodeEntities (Text.unescape body) = s ∧
      '"' ∉ body.toList ∧ '<' ∉ body.toList ∧ '>' ∉ body.toList) ∧
    ((Value.text s).literal = (Value.text t).literal ↔ s = t) ∧
    Text.closingQuote? ((Value.json document).literal ++ rest) = some ((Value.json document).literal.length - 1) ∧
    ∃ body, Text.literalBody? ((Value.json document).literal ++ rest) = some body ∧
      Text.unescape body = document.compact := by
  have sealedText : Text.Sealed (Text.textBody s).toList := Text.sealed_textBody s
  have sealedJson : Text.Sealed (Text.jsonBody document.compact).toList := Text.sealed_jsonBody document.compact
  have absent {c : Char} (hc : Text.isMarkup c = true) : c ∉ (Text.textBody s).toList :=
    Text.not_mem_textBody_of_isMarkup hc s
  rw [Value.literal_text_inj, Value.literal_text, Value.literal_json]
  refine ⟨Text.closingQuote?_quote sealedText rest, ?_, Iff.rfl, Text.closingQuote?_quote sealedJson rest, ?_⟩
  · exact ⟨_, Text.literalBody?_quote sealedText rest, Text.decodeEntities_unescape_textBody s,
      absent (by decide), absent (by decide), absent (by decide)⟩
  · exact ⟨_, Text.literalBody?_quote sealedJson rest, Text.unescape_jsonBody document.compact⟩

/-- What looks like an entity or like an escape in a text comes back as it was. -/
example : (Value.text "&lt;\'").literal = "'&amp;lt;\\\''" ∧
    Text.decodeEntities (Text.unescape "&amp;lt;\\\'") = "&lt;\'" := by decide

end SqlBuilder
