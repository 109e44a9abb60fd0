import WikiText.Config.Build
import WikiText.Proofs.Dictionary
import WikiText.Proofs.Text.Blank
import WikiText.Proofs.Text.Lower

/-!
# Configurations in normal form

A mapping either lacks something, and then the error says what, or it describes a configuration in
normal form: see `build_normal`. A configuration in normal form is described by its own entries.

Each part of a mapping is read by a function of its own. Of each of them one lemma says both when
it fails and what it gives, and the main result is put together from these.
-/

namespace WikiText.Config

/-! ## What a mapping must give -/

/-- The entries of a value that is a mapping. -/
def entriesOf : Option Value → List (Value × Value)
  | some (.mapping entries) => entries
  | _ => []

def formatterEntries (raw : List (Value × Value)) : List (Value × Value) :=
  entriesOf (Value.find? "formatter".toList raw)

def macroEntries (raw : List (Value × Value)) : List (Value × Value) :=
  entriesOf (Value.find? "macros".toList raw)

/-- A macro's template under the lower case of its name. -/
def template? : Value × Value → Option (Text × Text)
  | (name, .text template) => some (Text.lower name.toText, template)
  | _ => none

/-- The templates of a mapping under their lower-case names, in the order in which it has them. -/
def givenTemplates (raw : List (Value × Value)) : List (Text × Text) :=
  (macroEntries raw).filterMap template?

/-- A formatter's section, or nothing that counts as one. -/
def IsSection (v : Value) : Prop := v.isVoid = true ∨ ∃ entries, v = .mapping entries

/-- A text that is left with something when trimmed. -/
def IsFieldText (v : Value) : Prop := v = .null ∨ ∃ s, v = .text s ∧ Text.trim s ≠ []

/-- Names in a list or in a text. -/
def IsNames (v : Value) : Prop := v = .null ∨ (∃ s, v = .text s) ∨ ∃ items, v = .list items

/-- Macros with what should be their templates. -/
def IsMacros (v : Value) : Prop := v = .null ∨ ∃ entries, v = .mapping entries

/-- The keys of the formatter's section that have texts. -/
def textKeys : List Text :=
  ["pygments_style".toList, "highlight_class".toList, "toc_class".toList, "slug_separator".toList]

/-- What is wrong with a mapping for which there is this error. -/
def Lacks (raw : List (Value × Value)) : Error → Prop
  | .formatterNoMapping => ∃ v ∈ Value.find? "formatter".toList raw, ¬ IsSection v
  | .noText key => key ∈ textKeys ∧ ∃ v ∈ Value.find? key (formatterEntries raw), ¬ IsFieldText v
  | .noNames key =>
    key = "extensions".toList ∧ ∃ v ∈ Value.find? key (formatterEntries raw), ¬ IsNames v
  | .macrosNoMapping => ∃ v ∈ Value.find? "macros".toList raw, ¬ IsMacros v
  | .noTemplate name => ∃ e ∈ macroEntries raw, e.1.toText = name ∧ ∀ s, e.2 ≠ .text s

/-- A mapping with which nothing is wrong. -/
structure IsComplete (raw : List (Value × Value)) : Prop where
  formatter : ∀ v ∈ Value.find? "formatter".toList raw, IsSection v
  texts : ∀ key ∈ textKeys, ∀ v ∈ Value.find? key (formatterEntries raw), IsFieldText v
  extensions : ∀ v ∈ Value.find? "extensions".toList (formatterEntries raw), IsNames v
  macros : ∀ v ∈ Value.find? "macros".toList raw, IsMacros v
  templates : ∀ e ∈ macroEntries raw, ∃ s, e.2 = .text s

theorem IsComplete.not_lacks {raw : List (Value × Value)} (h : IsComplete raw) :
    ∀ e, ¬ Lacks raw e
  | .formatterNoMapping, ⟨v, hv, hno⟩ => hno (h.formatter v hv)
  | .noText key, ⟨hkey, v, hv, hno⟩ => hno (h.texts key hkey v hv)
  | .noNames _, ⟨rfl, v, hv, hno⟩ => hno (h.extensions v hv)
  | .macrosNoMapping, ⟨v, hv, hno⟩ => hno (h.macros v hv)
  | .noTemplate _, ⟨e, he, _, hno⟩ => (h.templates e he).elim hno

/-! ## The parts of a mapping -/

theorem sectionOf_cases (v? : Option Value) :
    ((∃ v ∈ v?, ¬ IsSection v) ∧ sectionOf v? = .error .formatterNoMapping) ∨
      (∀ v ∈ v?, IsSection v) ∧ sectionOf v? = .ok (entriesOf v?) := by
  cases v? with
  | none => exact .inr ⟨by simp, rfl⟩
  | some v =>
    cases v with
    | mapping entries => exact .inr ⟨by simp [IsSection], rfl⟩
    | _ =>
      simp only [sectionOf, entriesOf]
      split
      · next hv => exact .inr ⟨by simp [IsSection, hv], rfl⟩
      · next hv => exact .inl ⟨by simp [IsSection, hv], rfl⟩

theorem textField_cases (entries : List (Value × Value)) (key : String) {default : Text}
    (hd : Text.IsTrimmed default) :
    ((∃ v ∈ Value.find? key.toList entries, ¬ IsFieldText v) ∧
        textField entries key default = .error (.noText key.toList)) ∨
      (∀ v ∈ Value.find? key.toList entries, IsFieldText v) ∧
        ∃ s, Text.IsTrimmed s ∧ textField entries key default = .ok s := by
  unfold textField
  cases Value.find? key.toList entries with
  | none => exact .inr ⟨by simp, default, hd, rfl⟩
  | some v =>
    cases v with
    | null => exact .inr ⟨by simp [IsFieldText], default, hd, rfl⟩
    | text s =>
      by_cases hs : Text.trim s = []
      · exact .inl ⟨by simp [IsFieldText, hs], by simp [hs]⟩
      · exact .inr ⟨by simp [IsFieldText, hs], _, Text.isTrimmed_trim hs, by simp [hs]⟩
    | _ => exact .inl ⟨by simp [IsFieldText], rfl⟩

theorem isTrimmed_of_nameOf? {v : Value} {s : Text} (h : nameOf? v = some s) :
    Text.IsTrimmed s := by
  unfold nameOf? at h
  split at h
  · cases h
  · simp only [List.isEmpty_iff] at h
    split at h
    · cases h
    · next hs =>
      rw [← Option.some.inj h]
      exact Text.isTrimmed_trim hs

theorem isTrimmed_of_names {v : Value} {ns : List Text} (h : names v = .ok ns) :
    ∀ n ∈ ns, Text.IsTrimmed n := by
  cases v with
  | null => cases h; exact List.forall_mem_nil _
  | text s => cases h; exact fun n hn => Text.isTrimmed_of_mem_words hn
  | list items =>
    cases h
    intro n hn
    obtain ⟨v, -, hv⟩ := List.mem_filterMap.1 hn
    exact isTrimmed_of_nameOf? hv
  | _ => cases h

theorem names_cases (v : Value) :
    (¬ IsNames v ∧ names v = .error (.noNames "extensions".toList)) ∨
      IsNames v ∧ ∃ ns, names v = .ok ns := by
  cases v with
  | null | text s | list items => exact .inr ⟨by simp [IsNames], _, rfl⟩
  | _ => exact .inl ⟨by simp [IsNames], rfl⟩

theorem extensionNames_cases (entries : List (Value × Value)) {default : List Text}
    (hd : ∀ n ∈ default, Text.IsTrimmed n) :
    ((∃ v ∈ Value.find? "extensions".toList entries, ¬ IsNames v) ∧
        extensionNames entries default = .error (.noNames "extensions".toList)) ∨
      (∀ v ∈ Value.find? "extensions".toList entries, IsNames v) ∧
        ∃ ns, (∀ n ∈ ns, Text.IsTrimmed n) ∧ extensionNames entries default = .ok ns := by
  unfold extensionNames
  cases Value.find? "extensions".toList entries with
  | none => exact .inr ⟨by simp, default, hd, rfl⟩
  | some v =>
    obtain ⟨hv, h⟩ | ⟨hv, ns, h⟩ := names_cases v
    · exact .inl ⟨⟨v, rfl, hv⟩, h⟩
    · exact .inr ⟨by simpa using hv, ns, isTrimmed_of_names h, h⟩

theorem addTemplates_cases (d : Dictionary Text) (entries : List (Value × Value)) :
    (∃ e ∈ entries, (∀ s, e.2 ≠ .text s) ∧
        addTemplates d entries = .error (.noTemplate e.1.toText)) ∨
      (∀ e ∈ entries, ∃ s, e.2 = .text s) ∧ addTemplates d entries =
        .ok ((entries.filterMap template?).foldl (fun d e => d.insert e.1 e.2) d) := by
  induction entries generalizing d with
  | nil => exact .inr ⟨List.forall_mem_nil _, rfl⟩
  | cons e entries ih =>
    obtain ⟨name, v⟩ := e
    cases v with
    | text s =>
      obtain ⟨e, he, hno, h⟩ | ⟨hall, h⟩ := ih (d.insert (Text.lower name.toText) s)
      · exact .inl ⟨e, List.mem_cons_of_mem _ he, hno, h⟩
      · exact .inr ⟨List.forall_mem_cons.2 ⟨⟨s, rfl⟩, hall⟩, h⟩
    | _ => exact .inl ⟨_, List.mem_cons_self, by simp, rfl⟩

theorem templates_cases (v? : Option Value) :
    ((∃ v ∈ v?, ¬ IsMacros v) ∧ templates v? = .error .macrosNoMapping) ∨
      (∃ e ∈ entriesOf v?, (∀ s, e.2 ≠ .text s) ∧
        templates v? = .error (.noTemplate e.1.toText)) ∨
      (∀ v ∈ v?, IsMacros v) ∧ (∀ e ∈ entriesOf v?, ∃ s, e.2 = .text s) ∧
        templates v? = .ok (.ofList ((entriesOf v?).filterMap template?)) := by
  cases v? with
  | none => exact .inr (.inr ⟨by simp, List.forall_mem_nil _, rfl⟩)
  | some v =>
    cases v with
    | null => exact .inr (.inr ⟨by simp [IsMacros], List.forall_mem_nil _, rfl⟩)
    | mapping entries =>
      have hm : ∀ v ∈ some (Value.mapping entries), IsMacros v := by simp [IsMacros]
      exact .inr ((addTemplates_cases {} entries).imp_right fun h => ⟨hm, h⟩)
    | _ => exact .inl ⟨by simp [IsMacros], rfl⟩

/-! ## Normal form -/

/-- The texts and names of a configuration are trimmed, and the keys of its macros are in lower
case and differ. -/
structure IsNormal (c : Config) : Prop where
  style : Text.IsTrimmed c.style
  highlightClass : Text.IsTrimmed c.highlightClass
  tocClass : Text.IsTrimmed c.tocClass
  slugSeparator : Text.IsTrimmed c.slugSeparator
  extensions : ∀ n ∈ c.extensions, Text.IsTrimmed n
  nodup_macros : c.macros.keys.Nodup
  lower_macros : ∀ k ∈ c.macros.keys, Text.lower k = k

/-- The mapping that has the fields of a configuration for its formatter's section, and the macros
with their templates. -/
def toMapping (c : Config) : List (Value × Value) :=
  [(.text "formatter".toList, .mapping
      [(.text "pygments_style".toList, .text c.style),
        (.text "highlight_class".toList, .text c.highlightClass),
        (.text "toc_class".toList, .text c.tocClass),
        (.text "slug_separator".toList, .text c.slugSeparator),
        (.text "extensions".toList, .list (c.extensions.map .text))]),
    (.text "macros".toList, .mapping (c.macros.entries.map fun e => (.text e.1, .text e.2)))]

theorem textField_of_isTrimmed {entries : List (Value × Value)} {key : String} {s : Text}
    (default : Text) (hs : Text.IsTrimmed s)
    (h : Value.find? key.toList entries = some (.text s)) :
    textField entries key default = .ok s := by
  rw [textField, h]
  simp [Text.trim_eq_self hs, hs.ne_nil]

theorem nameOf?_text {s : Text} (h : Text.IsTrimmed s) : nameOf? (.text s) = some s := by
  simp [nameOf?, Value.toText, Text.trim_eq_self h, h.ne_nil]

theorem names_map_text {ns : List Text} (h : ∀ n ∈ ns, Text.IsTrimmed n) :
    names (.list (ns.map .text)) = .ok ns := by
  have hns : ns.filterMap (nameOf? ∘ .text) = ns.filterMap some :=
    List.filterMap_congr fun n hn => nameOf?_text (h n hn)
  rw [names, List.filterMap_map, hns, List.filterMap_some]

theorem filterMap_template?_entries {es : List (Text × Text)}
    (h : ∀ k ∈ es.map Prod.fst, Text.lower k = k) :
    (es.map fun e => (Value.text e.1, Value.text e.2)).filterMap template? = es := by
  have hes : es.filterMap (template? ∘ fun e => (.text e.1, .text e.2)) = es.filterMap some :=
    List.filterMap_congr fun e he => by
      rw [Function.comp_apply, template?, Value.toText, h _ (List.mem_map_of_mem he)]
  rw [List.filterMap_map, hes, List.filterMap_some]

theorem templates_entries {d : Dictionary Text} (hd : d.keys.Nodup)
    (hl : ∀ k ∈ d.keys, Text.lower k = k) :
    templates (some (.mapping (d.entries.map fun e => (.text e.1, .text e.2)))) = .ok d := by
  obtain ⟨e, he, hno, -⟩ | ⟨-, h⟩ :=
    addTemplates_cases {} (d.entries.map fun e => (.text e.1, .text e.2))
  · obtain ⟨e, -, rfl⟩ := List.mem_map.1 he
    exact absurd rfl (hno e.2)
  · rw [filterMap_template?_entries hl] at h
    exact h.trans (congrArg Except.ok (Dictionary.ofList_entries hd))

theorem build_eq_ok {raw entries : List (Value × Value)} {c : Config}
    (hentries : sectionOf (Value.find? "formatter".toList raw) = .ok entries)
    (hextensions : extensionNames entries ({} : Config).extensions = .ok c.extensions)
    (hstyle : textField entries "pygments_style" ({} : Config).style = .ok c.style)
    (hhighlightClass :
      textField entries "highlight_class" ({} : Config).highlightClass = .ok c.highlightClass)
    (htocClass : textField entries "toc_class" ({} : Config).tocClass = .ok c.tocClass)
    (hslugSeparator :
      textField entries "slug_separator" ({} : Config).slugSeparator = .ok c.slugSeparator)
    (hmacros : templates (Value.find? "macros".toList raw) = .ok c.macros) :
    build raw = .ok c := by
  simp only [build, hentries, hextensions, hstyle, hhighlightClass, htocClass, hslugSeparator,
    hmacros, bind, Except.bind, pure, Except.pure]

/-- A configuration in normal form is what its own entries describe. -/
theorem build_toMapping {c : Config} (h : c.IsNormal) : build c.toMapping = .ok c :=
  build_eq_ok rfl (names_map_text h.extensions)
    (textField_of_isTrimmed _ h.style rfl)
    (textField_of_isTrimmed _ h.highlightClass rfl)
    (textField_of_isTrimmed _ h.tocClass rfl)
    (textField_of_isTrimmed _ h.slugSeparator rfl)
    (templates_entries h.nodup_macros h.lower_macros)

theorem isNormal_default : ({} : Config).IsNormal where
  style := by decide
  highlightClass := by decide
  tocClass := by decide
  slugSeparator := by decide
  extensions := by decide
  nodup_macros := List.nodup_nil
  lower_macros := List.forall_mem_nil _

theorem lower_of_mem_keys {raw : List (Value × Value)} {k : Text}
    (h : k ∈ (Dictionary.ofList (givenTemplates raw)).keys) : Text.lower k = k := by
  rw [Dictionary.keys_ofList, List.mem_eraseDups] at h
  obtain ⟨e, he, rfl⟩ := List.mem_map.1 h
  obtain ⟨⟨name, v⟩, -, hv⟩ := List.mem_filterMap.1 he
  unfold template? at hv
  split at hv
  · rw [← Option.some.inj hv]
    exact Text.lower_lower _
  · cases hv

/-- The error says what a mapping lacks. With a complete one there is none. -/
theorem build_cases (raw : List (Value × Value)) :
    (∃ e, build raw = .error e ∧ Lacks raw e) ∨
      IsComplete raw ∧
        ∃ c, build raw = .ok c ∧ c.IsNormal ∧ c.macros = .ofList (givenTemplates raw) := by
  -- the parts are read one after the other, and the first that fails gives the error
  obtain ⟨hno, hentries⟩ | ⟨hsection, hentries⟩ :=
    sectionOf_cases (Value.find? "formatter".toList raw)
  · exact .inl ⟨.formatterNoMapping, by simp only [build, hentries, bind, Except.bind], hno⟩
  change _ = Except.ok (formatterEntries raw) at hentries
  obtain ⟨hno, h₁⟩ | ⟨hnames, extensions, ht₁, h₁⟩ :=
    extensionNames_cases (formatterEntries raw) isNormal_default.extensions
  · exact .inl ⟨.noNames "extensions".toList,
      by simp only [build, hentries, h₁, bind, Except.bind], rfl, hno⟩
  obtain ⟨hno, h₂⟩ | ⟨hs₂, style, ht₂, h₂⟩ :=
    textField_cases (formatterEntries raw) "pygments_style" isNormal_default.style
  · exact .inl ⟨.noText "pygments_style".toList,
      by simp only [build, hentries, h₁, h₂, bind, Except.bind], by simp [textKeys], hno⟩
  obtain ⟨hno, h₃⟩ | ⟨hs₃, highlightClass, ht₃, h₃⟩ :=
    textField_cases (formatterEntries raw) "highlight_class" isNormal_default.highlightClass
  · exact .inl ⟨.noText "highlight_class".toList,
      by simp only [build, hentries, h₁, h₂, h₃, bind, Except.bind], by simp [textKeys], hno⟩
  obtain ⟨hno, h₄⟩ | ⟨hs₄, tocClass, ht₄, h₄⟩ :=
    textField_cases (formatterEntries raw) "toc_class" isNormal_default.tocClass
  · exact .inl ⟨.noText "toc_class".toList,
      by simp only [build, hentries, h₁, h₂, h₃, h₄, bind, Except.bind], by simp [textKeys], hno⟩
  obtain ⟨hno, h₅⟩ | ⟨hs₅, slugSeparator, ht₅, h₅⟩ :=
    textField_cases (formatterEntries raw) "slug_separator" isNormal_default.slugSeparator
  · exact .inl ⟨.noText "slug_separator".toList,
      by simp only [build, hentries, h₁, h₂, h₃, h₄, h₅, bind, Except.bind], by simp [textKeys],
      hno⟩
  obtain ⟨hno, h₆⟩ | ⟨e, he, hno, h₆⟩ | ⟨hmacros, htemplates, h₆⟩ :=
    templates_cases (Value.find? "macros".toList raw)
  · exact .inl ⟨.macrosNoMapping,
      by simp only [build, hentries, h₁, h₂, h₃, h₄, h₅, h₆, bind, Except.bind], hno⟩
  · exact .inl ⟨.noTemplate e.1.toText,
      by simp only [build, hentries, h₁, h₂, h₃, h₄, h₅, h₆, bind, Except.bind], e, he, rfl, hno⟩
  have hcomplete : IsComplete raw := by
    refine ⟨hsection, ?_, hnames, hmacros, htemplates⟩
    simp only [textKeys, List.forall_mem_cons]
    exact ⟨hs₂, hs₃, hs₄, hs₅, List.forall_mem_nil _⟩
  exact .inr ⟨hcomplete, ⟨style, highlightClass, tocClass, slugSeparator, extensions, _⟩,
    build_eq_ok hentries h₁ h₂ h₃ h₄ h₅ h₆,
    ⟨ht₂, ht₃, ht₄, ht₅, ht₁, Dictionary.nodup_keys_ofList _, fun _ hk => lower_of_mem_keys hk⟩,
    rfl⟩

end WikiText.Config
