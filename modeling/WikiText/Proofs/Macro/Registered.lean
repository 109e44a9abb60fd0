import WikiText.Macro.Registry
import WikiText.Proofs.Config.Normal

/-!
# What a registry answers

A registry forgets how a macro came into it. It answers by the list of everything that was
registered, the contents it was made from first: a name is that of the last entry whose name has the
same lower case. Main statement: `Registry.call_last`.

The history of a registry is a list of requests. One of them registers at most one entry
(`Request.entry?`), and what it does is to add this entry (`Request.run_eq`), so that a history can
be read off as a list of entries.
-/

namespace WikiText.Macro

variable {μ ε : Type}

/-! ## Entries -/

/-- What the last entry under a name has, whatever the case of the name. -/
def last? (entries : List (Text × μ)) (name : Text) : Option μ :=
  (entries.filter fun e => Text.lower e.1 = Text.lower name).getLast?.map Prod.snd

theorem last?_eq_none_iff {entries : List (Text × μ)} {name : Text} :
    last? entries name = none ↔ ∀ e ∈ entries, Text.lower e.1 ≠ Text.lower name := by
  rw [last?, Option.map_eq_none_iff, List.getLast?_eq_none_iff, List.filter_eq_nil_iff]
  simp only [decide_eq_true_eq, ne_eq]

theorem last?_isSome_iff {entries : List (Text × μ)} {name : Text} :
    (last? entries name).isSome = true ↔ ∃ e ∈ entries, Text.lower e.1 = Text.lower name := by
  rw [Option.isSome_iff_ne_none, ne_eq, last?_eq_none_iff]
  push Not
  rfl

theorem last?_concat (entries : List (Text × μ)) (e : Text × μ) (name : Text) :
    last? (entries ++ [e]) name =
      if Text.lower name = Text.lower e.1 then some e.2 else last? entries name := by
  by_cases h : Text.lower e.1 = Text.lower name
  · simp [last?, h]
  · simp [last?, h, Ne.symm h]

namespace Registry

/-- The registry answers by these entries. -/
def AnswersBy (r : Registry μ) (entries : List (Text × μ)) : Prop :=
  ∀ name, r.get? name = last? entries name

theorem AnswersBy.add {r : Registry μ} {entries : List (Text × μ)} (h : r.AnswersBy entries)
    (name : Text) (m : μ) : (r.add name m).AnswersBy (entries ++ [(name, m)]) := by
  intro name'
  rw [get?_add, last?_concat, h name']

theorem answersBy_ofList (entries : List (Text × μ)) : (ofList entries).AnswersBy entries := by
  induction entries using List.reverseRecOn with
  | nil => exact fun _ => rfl
  | append_singleton entries e ih =>
    rw [ofList, List.foldl_append]
    exact ih.add e.1 e.2

theorem AnswersBy.contains_iff {r : Registry μ} {entries : List (Text × μ)}
    (h : r.AnswersBy entries) {v : Value} :
    r.contains v = true ↔
      ∃ name, v = .text name ∧ ∃ e ∈ entries, Text.lower e.1 = Text.lower name := by
  cases v with
  | text name =>
    rw [contains, h name, last?_isSome_iff]
    exact ⟨fun he => ⟨name, rfl, he⟩, fun ⟨_, hname, he⟩ => Value.text.inj hname ▸ he⟩
  | _ => exact iff_of_false Bool.false_ne_true fun ⟨_, hname, _⟩ => Value.noConfusion hname

theorem AnswersBy.call_eq {r : Registry (Pure ε)} {entries : List (Text × Pure ε)}
    (h : r.AnswersBy entries) (name : Text) (args : List Text) :
    r.call name args = match last? entries name with
      | some m => m args
      | none => .ok none := by
  cases hentry : last? entries name with
  | none => rw [call, h name, hentry]
  | some m => rw [call, h name, hentry]

end Registry

/-! ## Histories -/

/-- What a registry is made from: macros, or templates, under their names. -/
inductive Contents (ε : Type) where
  | macros (given : Dictionary (Pure ε))
  | templates (given : Dictionary Text)

/-- What can be asked of a registry that is there. -/
inductive Request (ε : Type) where
  | add (name : Text) (m : Pure ε)
  | register (name : Text) (m? : Option (Pure ε))
  | decorate (name : Text) (m : Pure ε)
  | template (name t : Text)

section History

variable (cause : Template.Error → ε)

def Contents.entries : Contents ε → List (Text × Pure ε)
  | .macros given => given.entries
  | .templates given => given.entries.map fun e => (e.1, .ofTemplate cause e.2)

def Contents.registry (contents : Contents ε) : Registry (Pure ε) :=
  .ofList (contents.entries cause)

theorem Contents.answersBy (contents : Contents ε) :
    (contents.registry cause).AnswersBy (contents.entries cause) :=
  Registry.answersBy_ofList _

/-- What a request registers: nothing, when a name is only to be awaited. -/
def Request.entry? : Request ε → Option (Text × Pure ε)
  | .add name m => some (name, m)
  | .register name m? => m?.map (name, ·)
  | .decorate name m => some (name, m)
  | .template name t => some (name, .ofTemplate cause t)

/-- What a request makes of a registry. -/
def Request.run (r : Registry (Pure ε)) : Request ε → Registry (Pure ε)
  | .add name m => r.add name m
  | .register name m? => (r.register name m?).2
  | .decorate name m => match r.register name none with
    | (.given _, r) => r
    | (.awaited name, r) => (r.decorate name m).2
  | .template name t => r.add name (.ofTemplate cause t)

theorem Request.run_eq (r : Registry (Pure ε)) (q : Request ε) :
    q.run cause r = match q.entry? cause with
      | some e => r.add e.1 e.2
      | none => r := by
  cases q with
  | add name m => rfl
  | register name m? => cases m? <;> rfl
  | decorate name m => rfl
  | template name t => rfl

theorem Request.answersBy {r : Registry (Pure ε)} {entries : List (Text × Pure ε)}
    (h : r.AnswersBy entries) (q : Request ε) :
    (q.run cause r).AnswersBy (entries ++ (q.entry? cause).toList) := by
  rw [Request.run_eq]
  cases q.entry? cause with
  | none => rwa [Option.toList_none, List.append_nil]
  | some e => exact h.add e.1 e.2

theorem answersBy_foldl {r : Registry (Pure ε)} {entries : List (Text × Pure ε)}
    (h : r.AnswersBy entries) (qs : List (Request ε)) :
    (qs.foldl (Request.run cause) r).AnswersBy
      (entries ++ qs.filterMap (Request.entry? cause)) := by
  induction qs generalizing r entries with
  | nil => rwa [List.filterMap_nil, List.append_nil]
  | cons q qs ih =>
    have hcons : (q :: qs).filterMap (Request.entry? cause) =
        (q.entry? cause).toList ++ qs.filterMap (Request.entry? cause) := by
      rw [List.filterMap_cons]
      cases q.entry? cause <;> rfl
    rw [hcons, ← List.append_assoc]
    exact ih (q.answersBy cause h)

end History

/-! ## Configured templates -/

theorem Pure.ofTemplate_id (t : Text) :
    Pure.ofTemplate id t = fun args => (Macro.ofTemplate t args).map some := by
  funext args
  rw [Pure.ofTemplate]
  cases Macro.ofTemplate t args <;> rfl

/-- The registry of templates is one that is made from templates. -/
theorem Contents.registry_templates (ts : Dictionary Text) :
    (Contents.templates ts).registry id = Registry.ofTemplates ts := by
  simp only [registry, entries, Registry.ofTemplates, Pure.ofTemplate_id]

theorem last?_map {ν : Type} (f : μ → ν) (entries : List (Text × μ)) (name : Text) :
    last? (entries.map fun e => (e.1, f e.2)) name = (last? entries name).map f := by
  simp [last?, List.filter_map, Function.comp_def, List.getLast?_map]

theorem last?_eq_lookup {es : List (Text × μ)} (h : ∀ e ∈ es, Text.lower e.1 = e.1)
    (name : Text) : last? es name = es.reverse.lookup (Text.lower name) := by
  induction es using List.reverseRecOn with
  | nil => rfl
  | append_singleton es e ih =>
    have he := h e (List.mem_append_right es (List.mem_singleton_self e))
    have hes := ih fun e' he' => h e' (List.mem_append_left [e] he')
    rw [last?_concat, List.reverse_concat, List.lookup_cons, he, hes]
    by_cases hname : Text.lower name = e.1
    · rw [if_pos hname, beq_iff_eq.2 hname]
    · rw [if_neg hname, beq_eq_false_iff_ne.2 hname]

/-- A dictionary of lower-case names has the last entries of what it was made from. -/
theorem last?_entries_ofList {es : List (Text × μ)} (h : ∀ e ∈ es, Text.lower e.1 = e.1)
    (name : Text) : last? (Dictionary.ofList es).entries name = last? es name := by
  have hentries : ∀ e ∈ (Dictionary.ofList es).entries, Text.lower e.1 = e.1 :=
    fun e he => h e (Dictionary.mem_of_mem_entries_ofList he)
  rw [last?_eq_lookup hentries, last?_eq_lookup h, ← Dictionary.get?_ofList,
    ← Dictionary.get?_ofList, Dictionary.ofList_entries (Dictionary.nodup_keys_ofList es)]

theorem lower_of_mem_givenTemplates {raw : List (Value × Value)} {e : Text × Text}
    (h : e ∈ Config.givenTemplates raw) : Text.lower e.1 = e.1 :=
  Config.lower_of_mem_keys (Dictionary.contains_iff.1
    (Dictionary.contains_ofList.2 (List.mem_map_of_mem h)))

/-- A token calls the template that its configuration gave last under its name. -/
theorem call_configured {raw : List (Value × Value)} {config : Config}
    (h : Config.build raw = .ok config) (t : Token) :
    (Registry.ofTemplates config.macros).call t.name t.args =
      match last? (Config.givenTemplates raw) t.written with
      | some template => (ofTemplate template t.args).map some
      | none => .ok none := by
  obtain ⟨_, herror, _⟩ | ⟨_, _, hok, _, hmacros⟩ := Config.build_cases raw
  · rw [h] at herror
    cases herror
  obtain rfl := Except.ok.inj (h.symm.trans hok)
  have hgiven : ∀ e ∈ Config.givenTemplates raw, Text.lower e.1 = e.1 :=
    fun e => lower_of_mem_givenTemplates
  rw [← Contents.registry_templates, (Contents.answersBy id _).call_eq, Contents.entries, last?_map,
    hmacros, last?_entries_ofList hgiven, last?_eq_lookup hgiven, last?_eq_lookup hgiven,
    Token.name, Text.lower_lower]
  cases (Config.givenTemplates raw).reverse.lookup (Text.lower t.written) with
  | none => rfl
  | some template => exact congrFun (Pure.ofTemplate_id template) t.args

/-- What is registered last under a name is what the name calls, whatever the case of either and
whatever way each macro came in, the contents of the registry being the first of them. A name that
nothing was registered under has no answer and is not contained, nor is anything but a text. A
request changes no other name. So a token whose name is configured in any case calls the template
that was configured last under it. -/
theorem Registry.call_last (cause : Template.Error → ε) (contents : Contents ε)
    (requests : List (Request ε)) :
    let entries := contents.entries cause ++ requests.filterMap (Request.entry? cause)
    let r := requests.foldl (Request.run cause) (contents.registry cause)
    (∀ name args, r.call name args = match last? entries name with
      | some m => m args
      | none => .ok none) ∧
    (∀ name args, r.call name args = .ok none ↔
      (∀ e ∈ entries, Text.lower e.1 ≠ Text.lower name) ∨
        ∃ m, last? entries name = some m ∧ m args = .ok none) ∧
    (∀ v, r.contains v = true ↔
      ∃ name, v = .text name ∧ ∃ e ∈ entries, Text.lower e.1 = Text.lower name) ∧
    (∀ (q : Request ε) (name : Text),
      (∀ e ∈ q.entry? cause, Text.lower e.1 ≠ Text.lower name) →
        (q.run cause r).call name = r.call name ∧
        (q.run cause r).contains (.text name) = r.contains (.text name)) ∧
    ∀ raw config, Config.build raw = .ok config → ∀ t : Token,
      (ofTemplates config.macros).call t.name t.args =
        match last? (Config.givenTemplates raw) t.written with
        | some template => (ofTemplate template t.args).map some
        | none => .ok none := by
  intro entries r
  have hr : r.AnswersBy entries :=
    answersBy_foldl cause (contents.answersBy cause) requests
  refine ⟨hr.call_eq, fun name args => ?_, fun v => hr.contains_iff,
    fun q name hq => ?_, fun raw config => call_configured⟩
  · rw [hr.call_eq, ← last?_eq_none_iff]
    cases last? entries name with
    | none => simp
    | some m => simp
  · have hget : (q.run cause r).get? name = r.get? name := by
      rw [Request.run_eq]
      cases he : q.entry? cause with
      | none => rfl
      | some e =>
        dsimp only
        rw [get?_add, if_neg (Ne.symm (hq e he))]
    exact ⟨funext fun args => by rw [call, call, hget], by rw [contains, contains, hget]⟩

/-- A template under a name in other letters takes the place of a macro that was decorated, which
had taken that of a template from the start. Of two configured templates the second is called. -/
theorem Registry.call_last_greet :
    let contents : Contents Template.Error :=
      .templates ⟨[("greet".toList, "Hi \x7b0\x7d".toList)]⟩
    let requests : List (Request Template.Error) :=
      [.register "ask".toList none, .decorate "GREET".toList fun _ => .ok (some "Ho".toList),
        .template "Greet".toList "Yo \x7b0\x7d".toList]
    let r := requests.foldl (Request.run id) (contents.registry id)
    let raw : List (Value × Value) := [(.text "macros".toList, .mapping
      [(.text "A".toList, .text "one".toList), (.text "a".toList, .text "two".toList)])]
    r.call "grEET".toList ["Ann".toList] = .ok (some "Yo Ann".toList) ∧
      r.call "ask".toList [] = .ok none ∧
      r.contains (.text "GREET".toList) = true ∧ r.contains (.bool true) = false ∧
      ((Request.add "other".toList fun _ => .ok none).run id r).contains (.text "greet".toList) =
        r.contains (.text "greet".toList) ∧
      Config.build raw = .ok { macros := ⟨[("a".toList, "two".toList)]⟩ } ∧
      (ofTemplates ⟨[("a".toList, "two".toList)]⟩).call (Token.name ⟨false, "A".toList, none⟩) [] =
        .ok (some "two".toList) := by
  intro contents requests r raw
  obtain ⟨hcall, hnone, hcontains, hother, hconfig⟩ := Registry.call_last id contents requests
  have hraw : Config.build raw = .ok { macros := ⟨[("a".toList, "two".toList)]⟩ } := rfl
  refine ⟨?_, ?_, ?_, ?_, (hother _ _ ?_).2, hraw, ?_⟩
  · rw [hcall]
    rfl
  · exact (hnone _ _).2 (.inl (by decide))
  · exact (hcontains _).2 ⟨_, rfl, by decide⟩
  · rw [Bool.eq_false_iff]
    exact fun h => by simpa using (hcontains _).1 h
  · rintro _ ⟨⟩
    decide
  · exact (hconfig raw _ hraw ⟨false, "A".toList, none⟩).trans rfl

end WikiText.Macro
