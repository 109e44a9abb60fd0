import Mathlib
import WikiText.Config.Load
import WikiText.Proofs.Config.Normal

/-!
# Values in the places of mappings

A document and the section of the formatter are taken for missing if their value counts as false,
and are refused otherwise; macros are refused in both cases.  So a wrong value does not go unnoticed
unless it is false, nought or empty.  Main statement: `refused_unless_false`.
-/

namespace WikiText.Config

/-- False, nought and what is empty, mappings apart. -/
inductive CountsAsFalse : Value → Prop where
  | false : CountsAsFalse (.bool false)
  | nought : CountsAsFalse (.int 0)
  | float {x : Binary64} (h : x.toInt? = some 0) : CountsAsFalse (.float x)
  | text : CountsAsFalse (.text [])
  | bytes : CountsAsFalse (.bytes [])
  | list : CountsAsFalse (.list [])
  | tuple : CountsAsFalse (.tuple [])
  | set : CountsAsFalse (.set [])

variable {v : Value}

section

variable (hmapping : ∀ entries, v ≠ .mapping entries)
include hmapping

theorem sectionOf_eq :
    sectionOf (some v) = if v.isVoid then .ok [] else .error .formatterNoMapping := by
  cases v with
  | mapping entries => exact absurd rfl (hmapping entries)
  | _ => rfl

theorem ofValue_eq : ofValue v = if v.isVoid then .ok {} else .error .noMapping := by
  cases v with
  | mapping entries => exact absurd rfl (hmapping entries)
  | _ => rfl

variable (hnull : v ≠ .null)
include hnull

theorem isVoid_iff : v.isVoid = true ↔ CountsAsFalse v := by
  cases v with
  | null => exact absurd rfl hnull
  | mapping entries => exact absurd rfl (hmapping entries)
  | bool b =>
    cases b with
    | false => exact iff_of_true rfl .false
    | true => exact iff_of_false Bool.false_ne_true nofun
  | int n =>
    simp only [Value.isVoid, beq_iff_eq]
    exact ⟨fun h => h ▸ .nought, fun | .nought => rfl⟩
  | float x =>
    simp only [Value.isVoid, beq_iff_eq]
    exact ⟨.float, fun | .float h => h⟩
  | text s =>
    simp only [Value.isVoid, List.isEmpty_iff]
    exact ⟨fun h => h ▸ .text, fun | .text => rfl⟩
  | bytes b =>
    simp only [Value.isVoid, List.isEmpty_iff]
    exact ⟨fun h => h ▸ .bytes, fun | .bytes => rfl⟩
  | list items =>
    simp only [Value.isVoid, List.isEmpty_iff]
    exact ⟨fun h => h ▸ .list, fun | .list => rfl⟩
  | tuple items =>
    simp only [Value.isVoid, List.isEmpty_iff]
    exact ⟨fun h => h ▸ .tuple, fun | .tuple => rfl⟩
  | set items =>
    simp only [Value.isVoid, List.isEmpty_iff]
    exact ⟨fun h => h ▸ .set, fun | .set => rfl⟩
  | other plain quoted => exact iff_of_false Bool.false_ne_true nofun

theorem not_isMacros : ¬ IsMacros v := by
  rintro (h | ⟨entries, h⟩)
  · exact hnull h
  · exact hmapping entries h

end

/-- A mapping is read through its two sections. -/
theorem build_congr {raw rest : List (Value × Value)}
    (hformatter : sectionOf (Value.find? "formatter".toList raw) =
      sectionOf (Value.find? "formatter".toList rest))
    (hmacros : Value.find? "macros".toList raw = Value.find? "macros".toList rest) :
    build raw = build rest := by
  rw [build, build, hformatter, hmacros]

theorem build_of_error {raw : List (Value × Value)} {e : Error}
    (h : sectionOf (Value.find? "formatter".toList raw) = .error e) : build raw = .error e := by
  rw [build, h]
  rfl

/-- Macros that are no mapping are the error if nothing else is wrong. -/
theorem build_of_not_isMacros {raw : List (Value × Value)}
    (hv : Value.find? "macros".toList raw = some v) (hmacros : ¬ IsMacros v)
    (hlacks : ∀ e, Lacks raw e → e = .macrosNoMapping) : build raw = .error .macrosNoMapping := by
  obtain ⟨e, he, hlack⟩ | ⟨hcomplete, -⟩ := build_cases raw
  · rw [he, hlacks e hlack]
  · exact absurd (hcomplete.macros v hv) hmacros

/-- What becomes of a value that is neither null nor a mapping where a mapping should be.  A
document with it is refused unless the value counts as false, and then it describes the default.  A
mapping with it for the formatter's section is refused whatever else is in it, unless the value
counts as false, and then the mapping describes what it does without the section.  A mapping with it
for the macros is refused if nothing else is wrong. -/
theorem refused_unless_false (hnull : v ≠ .null) (hmapping : ∀ entries, v ≠ .mapping entries) :
    (∀ path s, Yaml.read s = .ok v →
      (¬ CountsAsFalse v → ofFile path (some s) = .error (.refused .noMapping)) ∧
        (CountsAsFalse v → ofFile path (some s) = .ok {})) ∧
    (∀ raw, Value.find? "formatter".toList raw = some v →
      (¬ CountsAsFalse v → build raw = .error .formatterNoMapping) ∧
        (CountsAsFalse v → ∀ rest, Value.find? "formatter".toList rest = none →
          Value.find? "macros".toList rest = Value.find? "macros".toList raw →
          build raw = build rest)) ∧
    ∀ raw, Value.find? "macros".toList raw = some v →
      (∀ e, Lacks raw e → e = .macrosNoMapping) → build raw = .error .macrosNoMapping := by
  have hvoid := isVoid_iff hmapping hnull
  refine ⟨fun path s hs => ?_, fun raw hraw => ?_, fun raw hraw => ?_⟩
  · have hfile : ofFile path (some s) = (ofValue v).mapError .refused := by
      rw [ofFile, ofText, hs]
      rfl
    rw [hfile, ofValue_eq hmapping]
    exact ⟨fun h => by rw [if_neg (mt hvoid.1 h)]; rfl, fun h => by rw [if_pos (hvoid.2 h)]; rfl⟩
  · have hsection := sectionOf_eq hmapping
    rw [← hraw] at hsection
    refine ⟨fun h => build_of_error (hsection.trans (if_neg (mt hvoid.1 h))), ?_⟩
    intro h rest hrest hmacros
    refine build_congr ?_ hmacros.symm
    rw [hsection, if_pos (hvoid.2 h), hrest]
    rfl
  · exact build_of_not_isMacros hraw (not_isMacros hmapping hnull)

/-- Where there are no other entries, only the macros can be wrong. -/
theorem eq_of_lacks {raw : List (Value × Value)} {e : Error} (h : Lacks raw e)
    (hformatter : Value.find? "formatter".toList raw = none) (hmacros : macroEntries raw = []) :
    e = .macrosNoMapping := by
  have hentries : formatterEntries raw = [] := by
    rw [formatterEntries, hformatter]
    rfl
  cases e with
  | formatterNoMapping =>
    obtain ⟨v, hv, -⟩ := h
    rw [hformatter] at hv
    cases hv
  | noText key =>
    obtain ⟨-, v, hv, -⟩ := h
    rw [hentries] at hv
    cases hv
  | noNames key =>
    obtain ⟨-, v, hv, -⟩ := h
    rw [hentries] at hv
    cases hv
  | macrosNoMapping => rfl
  | noTemplate name =>
    obtain ⟨entry, hentry, -⟩ := h
    rw [hmacros] at hentry
    cases hentry

/-- A list with an item is refused everywhere. -/
theorem refused_unless_false_list :
    ofFile defaultFile (some "[[]]\n".toList) = .error (.refused .noMapping) ∧
      build [(.text "formatter".toList, .list [.list []])] = .error .formatterNoMapping ∧
      build [(.text "macros".toList, .list [.list []])] = .error .macrosNoMapping := by
  have hread : Yaml.read "[[]]\n".toList = .ok (.list [.list []]) := by cbv
  have hlist : ¬ CountsAsFalse (.list [.list []]) := by rintro ⟨⟩
  obtain ⟨hfile, hformatter, hmacros⟩ :=
    @refused_unless_false (.list [.list []]) (by simp) (by simp)
  exact ⟨(hfile _ _ hread).1 hlist, (hformatter _ rfl).1 hlist,
    hmacros _ rfl fun e h => eq_of_lacks h rfl rfl⟩

/-- False for the formatter's section and an empty list for a document are taken for missing. -/
theorem false_taken_for_missing :
    build [(.text "formatter".toList, .bool false)] = .ok {} ∧
      Yaml.read "[]\n".toList = .ok (.list []) ∧
      ofFile defaultFile (some "[]\n".toList) = .ok {} := by
  have hread : Yaml.read "[]\n".toList = .ok (.list []) := by cbv
  have hfile : ofFile defaultFile (some "[]\n".toList) = .ok {} := by
    rw [ofFile, ofText, hread]
    rfl
  exact ⟨rfl, hread, hfile⟩

end WikiText.Config
