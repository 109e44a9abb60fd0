import WikiText.Page.Fallback
import WikiText.Proofs.Page.Standalone
import WikiText.Proofs.Template.Written

/-!
# The source on the page of a failure

The page that is shown when rendering fails is a template with two fields, filled in with the
message and the text, both escaped (`fill_fallbackTemplate`).  So the only tags on it are its own
two, and the text is read back from between them: behind a message of one line, what separates the
text from the message is found first where the template has it.  Main statement:
`fallback_contained`.
-/

namespace WikiText.Page

open Html (escape unescape)
open Template (IsWord)

/-! ## The parts of the page -/

def openingTag : Text := "<pre>".toList

def lead : Text := "problem parsing wiki text: ".toList

/-- What separates the text from the message. -/
def separator : Text := "\noriginal text: \n".toList

def closingTag : Text := "</pre>".toList

/-- What stands between the tags of the page. -/
def fallbackBody (text message : Text) : Text :=
  lead ++ escape .plain message ++ separator ++ escape .plain text

theorem fallback_eq (text message : Text) :
    fallback text message = openingTag ++ fallbackBody text message ++ closingTag := by
  have hlead : "<pre>problem parsing wiki text: ".toList = openingTag ++ lead := by decide
  calc fallback text message
      = openingTag ++ lead ++ escape .plain message ++ separator ++ escape .plain text ++
          closingTag :=
        congrArg (· ++ escape .plain message ++ separator ++ escape .plain text ++ closingTag) hlead
    _ = openingTag ++ fallbackBody text message ++ closingTag := by
        simp only [fallbackBody, List.append_assoc]

/-! ## The template -/

/-- The page with a field for the message and one for the text. -/
def fallbackTemplate : Text :=
  "<pre>problem parsing wiki text: \x7bmessage\x7d\noriginal text: \n\x7btext\x7d</pre>".toList

/-- What its fields stand for. -/
def fallbackArguments (text message : Text) : Template.Arguments :=
  ⟨[], [("message".toList, escape .plain message), ("text".toList, escape .plain text)]⟩

theorem isWord_message : IsWord "message".toList := ⟨by decide, by decide, rfl⟩

theorem isWord_text : IsWord "text".toList := ⟨by decide, by decide, rfl⟩

/-- The page is its template filled in.  What looks like a field in the message or in the text is
not read as one. -/
theorem fill_fallbackTemplate (text message : Text) :
    Template.fill fallbackTemplate (fallbackArguments text message) =
      .ok (fallback text message) := by
  refine Template.fill_of_gives fun inner => ?_
  -- from the end of the template to its front
  have hclosing : Template.Gives (fallbackArguments text message) inner
      (closingTag.flatMap Template.doubled ++ []) (.ok (closingTag ++ [])) :=
    Template.gives_nil.literal closingTag
  have htext := (hclosing.word isWord_text rfl).literal separator
  have hmessage := (htext.word isWord_message rfl).literal (openingTag ++ lead)
  have hpage : fallback text message = openingTag ++ lead ++
      (escape .plain message ++ (separator ++ (escape .plain text ++ (closingTag ++ [])))) := by
    simp only [fallback_eq, fallbackBody, List.append_assoc, List.append_nil]
  have hwritten : fallbackTemplate = (openingTag ++ lead).flatMap Template.doubled ++
      '\x7b' :: ("message".toList ++ '\x7d' :: (separator.flatMap Template.doubled ++
        '\x7b' :: ("text".toList ++ '\x7d' :: (closingTag.flatMap Template.doubled ++ [])))) := by
    decide
  rw [hpage, hwritten]
  exact hmessage

/-! ## The tags -/

theorem angle_not_mem_escape {c : Char} (hc : c ∈ ['<', '>']) (s : Text) : c ∉ escape .plain s := by
  have hhides : ∀ c ∈ ['<', '>'], Html.QuoteStyle.plain.Hides c := by decide
  exact (hhides c hc).not_mem_escape s

theorem angle_not_mem_fallbackBody {c : Char} (hc : c ∈ ['<', '>']) (text message : Text) :
    c ∉ fallbackBody text message := by
  have hfixed : ∀ c ∈ ['<', '>'], c ∉ lead ∧ c ∉ separator := by decide
  simp only [fallbackBody, List.mem_append, not_or]
  exact ⟨⟨⟨(hfixed c hc).1, angle_not_mem_escape hc message⟩, (hfixed c hc).2⟩,
    angle_not_mem_escape hc text⟩

/-- Text without a tag leaves the tags around it the only ones. -/
theorem occursOnce_tags {body : Text} (h : '<' ∉ body) :
    Text.OccursOnce openingTag (openingTag ++ body ++ closingTag) ∧
      Text.OccursOnce closingTag (openingTag ++ body ++ closingTag) := by
  have hfront : '<' ∉ "pre>".toList ++ body := by
    rw [List.mem_append, not_or]
    exact ⟨by decide, h⟩
  have hback : ¬ "/pre>".toList <+: "pre>".toList ++ body ++ closingTag :=
    fun hpre => absurd (List.cons_prefix_cons.1 hpre).1 (by decide)
  exact ⟨Text.occursOnce_front hfront (y := "/pre>".toList) (by decide) (by decide),
    Text.occursOnce_back hfront (y := []) (by decide) hback⟩

/-! ## Reading the text back -/

/-- Both marks are found behind what cannot begin them. -/
theorem between?_append {a b : Char} {opening closing front inside : Text} (hfront : a ∉ front)
    (hinside : b ∉ inside) (rest : Text) :
    between? (a :: opening) (b :: closing)
      (front ++ (a :: opening ++ (inside ++ (b :: closing ++ rest)))) = some inside := by
  simp only [between?, Text.splitOnce?_append_of_head_not_mem hfront,
    Text.splitOnce?_append_of_head_not_mem hinside, Option.bind_eq_bind, Option.bind_some]

/-- Behind a message of one line the escaped text is found whole. -/
theorem between?_fallback (text : Text) {message : Text} (h : '\n' ∉ message) :
    between? separator closingTag (fallback text message) = some (escape .plain text) := by
  have hmessage : '\n' ∉ escape .plain message :=
    Html.not_mem_escape (by decide) (by decide) (by decide) h
  have hfront : '\n' ∉ openingTag ++ lead ++ escape .plain message := by
    simp only [List.mem_append, not_or]
    exact ⟨by decide, hmessage⟩
  have hpage : fallback text message = openingTag ++ lead ++ escape .plain message ++
      (separator ++ (escape .plain text ++ (closingTag ++ []))) := by
    simp only [fallback_eq, fallbackBody, List.append_assoc, List.append_nil]
  rw [hpage]
  exact between?_append hfront (angle_not_mem_escape (by decide) text) []

/-- Under one message, whatever it is, the page tells which text it is of. -/
theorem fallback_inj {text text' message : Text}
    (h : fallback text message = fallback text' message) : text = text' := by
  have hescaped : escape .plain text = escape .plain text' :=
    List.append_cancel_left (List.append_cancel_right h)
  rw [← Html.unescape_escape Html.isSound_plain text, hescaped,
    Html.unescape_escape Html.isSound_plain]

/-- The page of a failure is its template filled in with the escaped message and the escaped text,
whatever braces they hold.  It begins with the one opening tag and ends with the one closing tag
that it has, and no other delimiter of a tag is in it.  Behind a message of one line, what stands
between the first separator and the closing tag is the text when its references are decoded.  Texts
that differ give pages that differ under the same message. -/
theorem fallback_contained (text message : Text) :
    let page := fallback text message
    Template.fill fallbackTemplate (fallbackArguments text message) = .ok page ∧
      (Text.OccursOnce "<pre>".toList page ∧ Text.OccursOnce "</pre>".toList page) ∧
      (∃ body, page = "<pre>".toList ++ body ++ "</pre>".toList ∧ '<' ∉ body ∧ '>' ∉ body) ∧
      ('\n' ∉ message →
        (between? "\noriginal text: \n".toList "</pre>".toList page).map unescape = some text) ∧
      ∀ text', text' ≠ text → fallback text' message ≠ page := by
  intro page
  have hlt := angle_not_mem_fallbackBody (c := '<') (by decide) text message
  have hgt := angle_not_mem_fallbackBody (c := '>') (by decide) text message
  have hpage : page = openingTag ++ fallbackBody text message ++ closingTag :=
    fallback_eq text message
  refine ⟨fill_fallbackTemplate text message, hpage ▸ occursOnce_tags hlt, ⟨_, hpage, hlt, hgt⟩,
    fun hmessage => ?_, fun text' hne hsame => hne (fallback_inj hsame)⟩
  have hshown : between? separator closingTag page = some (escape .plain text) :=
    between?_fallback text hmessage
  exact (congrArg (Option.map unescape) hshown).trans
    (congrArg some (Html.unescape_escape Html.isSound_plain text))

/-- Tags, fields and references of the text are shown as they were written, and so is what looks
like the end of the page. -/
theorem fallback_contained_markup :
    let text := "&lt; \x7btext\x7d</pre>\noriginal text: \n".toList
    let message := "a < \x7bb\x7d".toList
    let shown := "&amp;lt; \x7btext\x7d&lt;/pre&gt;\noriginal text: \n".toList
    '\n' ∉ message ∧
      fallback text message = "<pre>problem parsing wiki text: a &lt; \x7bb\x7d".toList ++
        separator ++ shown ++ "</pre>".toList ∧
      (between? separator "</pre>".toList (fallback text message)).map unescape = some text ∧
      fallback [] message ≠ fallback text message := by
  intro text message shown
  obtain ⟨-, -, -, hread, hdiffer⟩ := fallback_contained text message
  have hmessage : '\n' ∉ message := by decide
  exact ⟨hmessage, by decide, hread hmessage, hdiffer [] (by decide)⟩

/-- A message of several lines can look as if the text began in it. -/
example : between? separator closingTag (fallback ['a'] separator) = some (separator ++ ['a']) := by
  decide

end WikiText.Page
