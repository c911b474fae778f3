import EntityViews.Proofs.View.Traces

/-! Expansions with more fuel.
One that ends is the same with more fuel. One without a limit that does not end has stopped short
of a model, and with more fuel it goes on with that model after the same steps.
-/

namespace EntityViews

variable {define : Model → Except SchemaError EntityDefinition} {registry : Registry}
  {limit : Option Nat} {kind : ViewKind} {fuel : Nat} {above : List String}
  {qualifier : Option String} {model : Model}

open Traced

/-- What agrees on targets whose expansion ends agrees on relations whose embedding ends. -/
theorem embedAll_settled {fewer more : Model → Traced Document}
    (agree : ∀ target, ¬ Endless (fewer target) → more target = fewer target)
    {relations : List (String × RelationDescriptor)}
    (h : ¬ Endless (embedAll registry fewer relations))
    : embedAll registry more relations = embedAll registry fewer relations := by
  induction relations with
  | nil => rfl
  | cons entry rest ih =>
      refine bind_settled (fun _ => rfl) (fun target _ ends => ?_) h
      refine bind_settled (agree target) (fun nested _ ends => ?_) ends
      exact bind_settled ih (fun _ _ _ => rfl) ends

/-- An expansion that ends is the same with any more fuel, by induction on the fuel. -/
theorem expand_settled
    (h : ¬ Endless (expand define registry limit kind fuel above qualifier model)) (more : Nat)
    : expand define registry limit kind (fuel + more) above qualifier model
      = expand define registry limit kind fuel above qualifier model := by
  induction fuel generalizing above qualifier model with
  | zero => exact absurd rfl h
  | succ fuel ih =>
      rw [Nat.add_right_comm]
      refine bind_settled (fun _ => rfl) (fun _ _ ends => ?_) h
      refine bind_settled (fun _ => rfl) (fun _ _ ends => ?_) ends
      refine bind_settled (fun _ => rfl) (fun definition _ ends => ?_) ends
      exact bind_settled (embedAll_settled fun target ends => ih ends) (fun _ _ _ => rfl) ends

/-- An embedding that does not end has come to a target whose expansion does not. With what
agrees wherever that ends it comes to the same target after the same steps.
-/
theorem embedAll_endless {fewer : Model → Traced Document}
    {relations : List (String × RelationDescriptor)}
    (h : Endless (embedAll registry fewer relations))
    : ∃ target ∈ registry.models,
        ∃ done,
          Endless (fewer target)
          ∧ (embedAll registry fewer relations).steps = done ++ (fewer target).steps
          ∧ ∀ more : Model → Traced Document,
              (∀ other, ¬ Endless (fewer other) → more other = fewer other)
              → done ++ (more target).steps <+: (embedAll registry more relations).steps := by
  induction relations with
  | nil => exact absurd h not_endless_pure
  | cons entry rest ih =>
      unfold embedAll at h
      obtain ⟨target, given, h⟩ := (endless_bind_iff.mp h).resolve_left not_endless_ofExcept
      have registered : target ∈ registry.models := by
        rw [outcome_ofExcept, Except.mapError_eq_ok_iff] at given
        exact (Registry.get_eq_ok_iff.mp given).1
      have opened (expandTarget : Model → Traced Document)
          : (embedAll registry expandTarget (entry :: rest)).steps
            = (expandTarget target >>= fun nested =>
                embedAll registry expandTarget rest >>= fun others =>
                  pure ((entry.1, entry.2.property nested) :: others)).steps := by
        rw [embedAll, steps_bind_of_ok given, steps_ofExcept, List.nil_append]
      rcases endless_bind_iff.mp h with endless | ⟨nested, expanded, h⟩
      · refine ⟨target, registered, [], endless, ?_, ?_⟩
        · rw [opened, steps_bind_of_error endless, List.nil_append]
        · intro more agree
          rw [opened, List.nil_append]
          exact steps_prefix_bind _ _
      · have later : Endless (embedAll registry fewer rest) := by
          rcases endless_bind_iff.mp h with later | ⟨_, _, out⟩
          · exact later
          · exact absurd out not_endless_pure
        obtain ⟨last, known, done, endless, steps, onward⟩ := ih later
        refine ⟨last, known, (fewer target).steps ++ done, endless, ?_, ?_⟩
        · rw [opened, steps_bind_of_ok expanded, steps_bind_of_error later, steps,
            List.append_assoc]
        · intro more agree
          have ends : ¬ Endless (fewer target) := by
            intro endless
            rw [Endless, expanded] at endless
            contradiction
          have same := agree target ends
          rw [opened, steps_bind_of_ok (same ▸ expanded), same, List.append_assoc]
          refine (List.prefix_append_right_inj _).mpr ?_
          exact (onward more agree).trans (steps_prefix_bind _ _)

/-- The steps with which an unlimited expansion enters a model below those of the path. -/
def entrySteps (kind : ViewKind) (path : List String) (model : Model) : List Step :=
  (guardDepth none kind path model.name).steps ++ [.defined model]

/-- The end of an expansion, once the followed relations are embedded. -/
def closeDocument (kind : ViewKind) (depth : Nat) (qualifier : Option String) (model : Model)
    (definition : EntityDefinition) (embedded : List (String × Property))
    : Traced Document := do
  let document := definition.document kind (some (schemaId model.name kind.label qualifier))
    embedded
  .step (.generated kind model.name depth document.properties.length)
  return document

/-- An unlimited expansion enters a compiled model, embeds its relations and closes. -/
theorem expand_unlimited {definition : EntityDefinition} (h : define model = .ok definition)
    : expand define registry none kind (fuel + 1) above qualifier model
      = ⟨entrySteps kind above model
            ++ (embedAll registry
                  (expand define registry none kind fuel (above ++ [model.name]) none)
                  (definition.followed kind)
                >>= closeDocument kind above.length qualifier model definition).steps,
          (embedAll registry
              (expand define registry none kind fuel (above ++ [model.name]) none)
              (definition.followed kind)
            >>= closeDocument kind above.length qualifier model definition).outcome⟩ := by
  have entered
      : guardDepth none kind above model.name
        = ⟨(guardDepth none kind above model.name).steps, .ok ()⟩ :=
    congrArg (Traced.mk _) (guardDepth_outcome none kind above model.name)
  conv_lhs => unfold expand
  rw [entered, h, entrySteps, List.append_assoc]
  rfl

/-- An unlimited expansion that does not end has entered its model and come to a registered
target, whose expansion does not end. With more fuel it comes there after the same steps.
-/
theorem expand_endless
    (h : Endless (expand define registry none kind (fuel + 1) above qualifier model))
    : ∃ target ∈ registry.models,
        ∃ done,
          Endless (expand define registry none kind fuel (above ++ [model.name]) none target)
          ∧ (expand define registry none kind (fuel + 1) above qualifier model).steps
            = entrySteps kind above model ++ done
              ++ (expand define registry none kind fuel (above ++ [model.name]) none
                target).steps
          ∧ ∀ more,
              entrySteps kind above model ++ done
                ++ (expand define registry none kind (fuel + more) (above ++ [model.name]) none
                  target).steps
              <+: (expand define registry none kind (fuel + more + 1) above qualifier
                model).steps := by
  cases compiles : define model with
  | error problem =>
      simp [Endless, expand, compiles, guardDepth_outcome] at h
  | ok definition =>
      have embeds
          : Endless
              (embedAll registry
                (expand define registry none kind fuel (above ++ [model.name]) none)
                (definition.followed kind)) := by
        rw [expand_unlimited compiles] at h
        rcases endless_bind_iff.mp h with endless | ⟨embedded, _, out⟩
        · exact endless
        · contradiction
      obtain ⟨target, registered, done, endless, steps, onward⟩ := embedAll_endless embeds
      refine ⟨target, registered, done, endless, ?_, ?_⟩
      · rw [expand_unlimited compiles, steps_bind_of_error embeds, steps, List.append_assoc]
      · intro more
        rw [expand_unlimited compiles, List.append_assoc]
        refine (List.prefix_append_right_inj _).mpr ?_
        refine (onward _ fun other ends => ?_).trans (steps_prefix_bind _ _)
        exact expand_settled ends more

end EntityViews
