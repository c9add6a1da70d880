import ServiceWiring.Proofs.Planning
import ServiceWiring.Proofs.Tracing

/-! The policy for listed contracts. To take only those that a type implements drops the registrations of
the others, and changes nothing else about a pass: neither whether it succeeds nor what it tells on the
way. -/
namespace ServiceWiring

/-- Under this policy no type is bound to what is not its own. -/
theorem mem_servicesByMode_implementedOnly {t : DeclaredType} {d : Directive} {service : TypeName}
    (h : service ∈ servicesByMode .implementedOnly t d) :
    service = t.name ∨ service ∈ t.contracts := by
  by_cases hlisted : d.mode = .listed ∧ d.listed ≠ []
  · obtain ⟨hmode, hne⟩ := hlisted
    simp only [servicesByMode, hmode, if_neg hne, List.mem_filter, decide_eq_true_eq] at h
    exact .inr h.2
  · -- Where nothing is filtered, what is listed does not count.
    have hunlisted : servicesByMode .implementedOnly t d =
        servicesByMode .implementedOnly t { d with listed := [] } := by
      cases hmode : d.mode <;> simp_all [servicesByMode]
    rw [hunlisted] at h
    exact (mem_servicesByMode h).imp_right fun h => h.resolve_right List.not_mem_nil

namespace Accepted

/-- The registration is there because the annotation lists its service, which the type does not
implement. -/
def Exceeds (x : Accepted) (r : Registration) : Prop :=
  x.directive.mode = .listed ∧ x.directive.listed ≠ [] ∧ r.service ∉ x.type.contracts

instance (x : Accepted) (r : Registration) : Decidable (x.Exceeds r) :=
  inferInstanceAs (Decidable (_ ∧ _ ∧ _))

/-- Only a list is filtered, and nothing is put in the place of what is dropped. -/
theorem block_implementedOnly (x : Accepted) :
    x.block .implementedOnly = (x.block .unchecked).filter fun r => ¬x.Exceeds r := by
  rw [block, block, List.filter_map]
  apply congrArg (List.map _)
  unfold servicesByMode
  cases hmode : x.directive.mode with
  | listed =>
    by_cases hlisted : x.directive.listed = []
    · simp [Exceeds, hlisted]
    · simp [Exceeds, hmode, hlisted, Function.comp_def]
  | auto => simp [Exceeds, hmode]
  | firstContract => simp [Exceeds, hmode]
  | itself => simp [Exceeds, hmode]
  | allContracts => simp [Exceeds, hmode]

end Accepted

/-- The registrations of a pass, each with the annotation that it comes from. -/
def sourced (kinds : KindRegistry) (policy : ListedPolicy) (types : List DeclaredType) :
    List (Accepted × Registration) :=
  (accepted kinds types).flatMap fun x => (x.block policy).map (x, ·)

section Sourced
variable (kinds : KindRegistry) (types : List DeclaredType)

theorem map_snd_sourced (policy : ListedPolicy) :
    (sourced kinds policy types).map Prod.snd =
      (accepted kinds types).flatMap (Accepted.block policy) := by
  simp [sourced, List.map_flatMap, Function.comp_def]

theorem sourced_implementedOnly :
    sourced kinds .implementedOnly types =
      (sourced kinds .unchecked types).filter fun (x, r) => ¬x.Exceeds r := by
  simp only [sourced, List.filter_flatMap, List.filter_map, Accepted.block_implementedOnly]
  rfl

end Sourced

/-- Whether a walk is ended, and what it tells, does not depend on the policy. -/
theorem Encounter.walk_policies (kinds : KindRegistry) (invalid : InvalidPolicy)
    (xs : List Encounter) :
    (∃ ds e, ∀ policy, walk kinds ⟨policy, invalid⟩ xs = ⟨ds, .error (.unresolved e)⟩) ∨
      ∃ ds, ∀ policy, walk kinds ⟨policy, invalid⟩ xs =
        ⟨ds, .ok (xs.flatMap (registrations kinds policy))⟩ := by
  by_cases h : invalid = .abort → ∀ x ∈ xs, x.error? kinds = none
  · exact .inr ⟨_, fun policy => walk_complete xs h⟩
  · obtain ⟨habort, hne⟩ := Classical.not_imp.mp h
    obtain ⟨e, rest, he⟩ := List.exists_cons_of_ne_nil fun hnil => hne (errors_eq_nil.mp hnil)
    obtain ⟨before, t, a, after, rfl, hbefore, hx⟩ := split_of_errors he
    exact .inl ⟨_, e, fun policy => walk_stopped after habort hbefore hx⟩

namespace Pass

theorem plan_policies (invalid : InvalidPolicy) (u : BuildUnit) :
    (∃ ds e, ∀ policy, plan ⟨policy, invalid⟩ u = ⟨ds, .error e⟩) ∨
      ∃ kinds ds, u.kinds = some kinds ∧ ∀ policy, plan ⟨policy, invalid⟩ u =
        ⟨ds, .ok ((accepted kinds u.types).flatMap (Accepted.block policy))⟩ := by
  cases hkinds : u.kinds with
  | none => exact .inl ⟨_, _, fun policy => by rw [plan, hkinds]⟩
  | some kinds =>
    rcases Encounter.walk_policies kinds invalid (u.types.flatMap (Encounter.ofType kinds)) with
      ⟨ds, e, hwalk⟩ | ⟨ds, hwalk⟩
    · exact .inl ⟨_, _, fun policy => by rw [plan_eq_walk hkinds, hwalk]⟩
    · refine .inr ⟨kinds, .started u.name :: ds, rfl, fun policy => ?_⟩
      rw [plan_eq_walk hkinds, hwalk, registrations_ofTypes]

/-- What comes of types when all listed contracts are taken, against what comes of them when only those are
that they implement. -/
structure Outcome.Filtered (kinds : KindRegistry) (types : List DeclaredType) (o p : Outcome) :
    Prop where
  all : o.registrations = (sourced kinds .unchecked types).map Prod.snd
  kept : p.registrations =
    ((sourced kinds .unchecked types).filter fun (x, r) => ¬x.Exceeds r).map Prod.snd
  sublist : p.registrations.Sublist o.registrations
  implemented : ∀ r ∈ p.registrations, ∃ t ∈ types,
    r.implementation = t.name ∧ (r.service = t.name ∨ r.service ∈ t.contracts)

theorem Outcome.filtered_of_blocks {kinds : KindRegistry} {types : List DeclaredType} {o p : Outcome}
    (ho : o.registrations = (accepted kinds types).flatMap (Accepted.block .unchecked))
    (hp : p.registrations = (accepted kinds types).flatMap (Accepted.block .implementedOnly)) :
    Filtered kinds types o p := by
  rw [← map_snd_sourced] at ho
  have hkept : p.registrations =
      ((sourced kinds .unchecked types).filter fun (x, r) => ¬x.Exceeds r).map Prod.snd := by
    rw [hp, ← map_snd_sourced, sourced_implementedOnly]
  refine ⟨ho, hkept, ?_, fun r hr => ?_⟩
  · rw [ho, hkept]
    exact List.filter_sublist.map Prod.snd
  · rw [hp] at hr
    obtain ⟨x, hx, hr⟩ := List.mem_flatMap.mp hr
    obtain ⟨service, hservice, rfl⟩ := List.mem_map.mp hr
    exact ⟨x.type, (mem_accepted.mp hx).1, rfl, mem_servicesByMode_implementedOnly hservice⟩

end Pass

/-- Taking only implemented contracts, a pass fails where it failed before, with the same error; otherwise
it tells the same up to its last word and drops the registrations that come of a list and are not of a
contract. -/
theorem runInto_implementedOnly (sink : List Diagnostic) (dialect : Dialect) (s : Scaffold)
    (invalid : InvalidPolicy) (u : BuildUnit) :
    let unchecked := Pass.runInto sink dialect s ⟨.unchecked, invalid⟩ u
    let filtered := Pass.runInto sink dialect s ⟨.implementedOnly, invalid⟩ u
    match unchecked.result, filtered.result with
    | .error e, .error f => e = f ∧ unchecked.diagnostics = filtered.diagnostics
    | .ok o, .ok p => ∃ kinds ds, u.kinds = some kinds ∧
        unchecked.diagnostics = ds ++ [Pass.conclusion u o] ∧
        filtered.diagnostics = ds ++ [Pass.conclusion u p] ∧
        Pass.Outcome.Filtered kinds u.types o p
    | _, _ => False := by
  intro unchecked filtered
  rcases Pass.plan_policies invalid u with ⟨ds, e, hplan⟩ | ⟨kinds, ds, hkinds, hplan⟩
  · have hrun (policy : ListedPolicy) :
        Pass.runInto sink dialect s ⟨policy, invalid⟩ u = ⟨sink ++ ds, .error e⟩ := by
      rw [Pass.runInto_of_error sink dialect s (congrArg Traced.result (hplan policy)), hplan]
    simp only [unchecked, filtered, hrun]
    trivial
  · have hrun (policy : ListedPolicy) :=
      Pass.runInto_of_ok sink dialect s (congrArg Traced.result (hplan policy))
    simp only [unchecked, filtered, hrun, hplan]
    exact ⟨kinds, sink ++ ds, hkinds, rfl, rfl, Pass.Outcome.filtered_of_blocks rfl rfl⟩

end ServiceWiring
