import ConfigGate.Proofs.Schema.Reload

/-!
# Saving a loaded schema

A schema that was loaded can always be saved. What is saved is in canonical form: single values have
become lists and rules are written in one way. It loads as the same schema but for the texts of its
rules, and saving that schema gives the same text, so a file changes at most once by being loaded
and saved.

Results:
1. `LoadedFrom.canonical`: the document of a loaded schema loads as the canonical form of it;
2. `resave_of_loaded`: the same for the texts of files.
-/

namespace ConfigGate.Schema

variable {document : Document} {schema reloaded : Schema} {text : String}

/-! ## Canonical forms -/

/-- Documents hold rules in canonical form already. -/
theorem canonical_toDocument (schema : Schema) :
    schema.canonical.toDocument = schema.toDocument := by
  rw [toDocument, canonical, List.map_map]
  rfl

/-- A schema and its canonical form are saved as the same text. -/
theorem write_canonical (written : schema.write = .ok text) :
    schema.canonical.write = .ok text := by
  obtain ⟨rfl, refs⟩ := write_eq_ok_iff.mp written
  refine write_eq_ok_iff.mpr ⟨by rw [canonical_toDocument], fun invariant member => ?_⟩
  obtain ⟨original, originalMember, rfl⟩ := List.mem_map.mp member
  exact refs original originalMember

theorem canonical_rule (schema : Schema) :
    ∀ invariant ∈ schema.canonical.invariants, invariant.rule = invariant.expr.format := by
  intro invariant member
  obtain ⟨original, -, rfl⟩ := List.mem_map.mp member
  rfl

/-! ## Loaded schemas -/

/-- The rules of a loaded schema refer to declared keys only. -/
theorem LoadedFrom.refs (loaded : schema.LoadedFrom document) :
    ∀ invariant ∈ schema.invariants, ∀ path ∈ invariant.expr.refs, schema.declares path = true :=
  fun invariant member => (loaded.rules invariant member).refs

/-- Whatever the loader made sure of holds of the document that is written, too. -/
theorem LoadedFrom.canonical (loaded : schema.LoadedFrom document) :
    schema.canonical.LoadedFrom schema.toDocument :=
  (reloadable_of_loadedFrom loaded ⟨rfl, rfl, rfl⟩).loadedFrom loaded.refs

/-- A loaded schema is saved as a text that loads, if it reads as the document that was written, as
the schema in canonical form; and that schema is saved as the same text. -/
theorem resave_of_loaded (wording : Wording) (loads : ofDocument document = .ok schema) :
    ∃ text, schema.write = .ok text ∧
      (Document.read text = some schema.toDocument →
        ∃ reloaded, Schema.read wording text = .ok reloaded ∧ schema.SameAs reloaded ∧
          (∀ invariant ∈ reloaded.invariants, invariant.rule = invariant.expr.format) ∧
          reloaded.write = .ok text) := by
  have loaded := ofDocument_eq_ok_iff.mp loads
  have written : schema.write = .ok schema.toDocument.write :=
    write_eq_ok_iff.mpr ⟨rfl, loaded.refs⟩
  refine ⟨_, written, fun faithful => ⟨schema.canonical, ?_, sameAs_canonical schema,
    canonical_rule schema, write_canonical written⟩⟩
  rw [read_eq_ofDocument wording faithful]
  exact ofDocument_eq_ok_iff.mpr loaded.canonical

/-! ## A document with single values -/

/-- A rule that is not laid out in the canonical way, and a clause of one pattern. -/
def looseDocument : Document :=
  { config := .ofList [("a", ⟨.string, true, []⟩)]
    invariants := [⟨"n", "a==\"b\""⟩]
    environments := .ofList [("p", ⟨.empty, .ofList [("a", .single "b*")]⟩)] }

/-- The schema of the document. -/
def looseSchema : Schema :=
  { config := looseDocument.config
    invariants := [⟨"n", "a==\"b\"", .comparison (.configRef "a") .equal (.literal "b")⟩]
    environments := .ofList [("p", ⟨"p", .empty, .ofList [("a", .deny ["b*"])]⟩)] }

theorem looseDocument_loads : ofDocument looseDocument = .ok looseSchema := by
  refine ofDocument_eq_ok_iff.mpr ⟨rfl, rfl, by decide, ?_, ?_, by decide, by decide⟩
  · simp only [← keyFault?_eq_none_iff]
    decide
  · intro invariant member
    obtain rfl := List.mem_singleton.mp member
    refine ⟨by decide, ?_, by decide⟩
    -- Whether two results of parsing are equal is not decidable as it stands.
    have found : (Rule.parse "a==\"b\"").toOption =
        some (.comparison (.configRef "a") .equal (.literal "b")) := by decide +kernel
    show Rule.parse "a==\"b\"" = _
    cases parsed : Rule.parse "a==\"b\"" with
    | ok expr => rw [parsed] at found; exact congrArg _ (Option.some.inj found)
    | error cause => rw [parsed] at found; exact absurd found nofun

/-- The document is saved once in another form, and from then on in the same form. -/
theorem looseSchema_resaved :
    ofDocument looseDocument = .ok looseSchema ∧ looseSchema.toDocument ≠ looseDocument ∧
      ∃ text, looseSchema.write = .ok text ∧
        ∃ reloaded, Schema.read .plain text = .ok reloaded ∧ looseSchema.SameAs reloaded ∧
          reloaded ≠ looseSchema ∧ reloaded.write = .ok text := by
  obtain ⟨text, written, resaved⟩ := resave_of_loaded .plain looseDocument_loads
  have faithful : Document.read text = some looseSchema.toDocument := by
    rw [(write_eq_ok_iff.mp written).1]
    decide +kernel
  obtain ⟨reloaded, reads, same, rules, rewritten⟩ := resaved faithful
  refine ⟨looseDocument_loads, by decide +kernel, text, written, reloaded, reads, same, ?_,
    rewritten⟩
  rintro rfl
  exact absurd rules (by decide +kernel)

end ConfigGate.Schema
