import ServiceWiring.Proofs.Encounter

/-! What a pass registers: a block of registrations for each annotation that is recognized and can
be resolved, and nothing else. The mode of the annotation says which services the block has. -/
namespace ServiceWiring

/-- The table of modes: the services that a type is bound to, itself where nothing is offered. -/
def servicesByMode (policy : ListedPolicy) (t : DeclaredType) (d : Directive) : List TypeName :=
  match d.mode with
  | .itself => [t.name]
  | .allContracts => if t.contracts = [] then [t.name] else t.contracts
  | .firstContract => [t.contracts.headD t.name]
  | .auto => [t.contracts.headD t.name]
  | .listed =>
    if d.listed = [] then [t.name]
    else match policy with
      | .unchecked => d.listed
      | .implementedOnly => d.listed.filter (· ∈ t.contracts)

theorem services_eq_byMode (policy : ListedPolicy) (t : DeclaredType) (d : Directive) :
    t.services policy d = servicesByMode policy t d := by
  unfold DeclaredType.services servicesByMode
  cases d.mode with
  | auto => cases t.contracts <;> rfl
  | firstContract => cases t.contracts <;> rfl
  | allContracts => cases t.contracts <;> simp
  | itself => rfl
  | listed => cases d.listed <;> cases policy <;> simp [ListedPolicy.select]

/-- Services come from the type, from its contracts or from the list that goes with the mode. -/
theorem mem_servicesByMode {policy : ListedPolicy} {t : DeclaredType} {d : Directive}
    {service : TypeName} (h : service ∈ servicesByMode policy t d) :
    service = t.name ∨ service ∈ t.contracts ∨ service ∈ d.listed := by
  have hhead : t.contracts.headD t.name = t.name ∨ t.contracts.headD t.name ∈ t.contracts := by
    cases t.contracts <;> simp
  unfold servicesByMode at h
  split at h
  · exact .inl (List.mem_singleton.mp h)
  · split at h
    · exact .inl (List.mem_singleton.mp h)
    · exact .inr (.inl h)
  · rw [List.mem_singleton.mp h]
    exact hhead.imp_right .inl
  · rw [List.mem_singleton.mp h]
    exact hhead.imp_right .inl
  · split at h
    · exact .inl (List.mem_singleton.mp h)
    · split at h
      · exact .inr (.inr h)
      · exact .inr (.inr (List.mem_filter.mp h).1)

theorem servicesByMode_eq_nil {policy : ListedPolicy} {t : DeclaredType} {d : Directive} :
    servicesByMode policy t d = [] ↔
      d.mode = .listed ∧ policy = .implementedOnly ∧ d.listed ≠ [] ∧
        ∀ c ∈ d.listed, c ∉ t.contracts := by
  unfold servicesByMode
  cases d.mode <;> cases policy <;> by_cases hl : d.listed = [] <;>
    by_cases hc : t.contracts = [] <;> simp [hl, hc]

/-- The type itself stands in for services where there are no others. -/
theorem servicesByMode_of_mem_name {policy : ListedPolicy} {t : DeclaredType} {d : Directive}
    (hcontracts : t.name ∉ t.contracts) (hlisted : t.name ∉ d.listed)
    (h : t.name ∈ servicesByMode policy t d) : servicesByMode policy t d = [t.name] := by
  have hhead : t.name = t.contracts.headD t.name → [t.contracts.headD t.name] = [t.name] :=
    fun e => congrArg (fun name => [name]) e.symm
  unfold servicesByMode at h ⊢
  split at h
  · rfl
  · split at h
    · next hnone => exact if_pos hnone
    · exact absurd h hcontracts
  · exact hhead (List.mem_singleton.mp h)
  · exact hhead (List.mem_singleton.mp h)
  · split at h
    · next hnone => exact if_pos hnone
    · split at h
      · exact absurd h hlisted
      · exact absurd (List.mem_filter.mp h).1 hlisted

/-- The argument names the type as a contract. -/
def Argument.Lists (t : TypeName) : Argument → Prop
  | .types ts => t ∈ ts
  | .text s => TypeName.parse? s = some t
  | _ => False

/-- An argument of the annotation names the type as a contract. -/
def Mark.Lists (a : Mark) (t : TypeName) : Prop :=
  ∃ arg ∈ a.positional ++ a.named.map NamedArgument.value, arg.Lists t

theorem Argument.lists_of_contracts {arg : Argument} {ts : List TypeName} {t : TypeName}
    (h : arg.contracts = .ok ts) (ht : t ∈ ts) : arg.Lists t := by
  cases arg with
  | absent => cases h; simp at ht
  | code n => cases h; simp at ht
  | types us => cases h; exact ht
  | text s =>
    cases hs : TypeName.parse? s with
    | none => simp [Argument.contracts, hs] at h
    | some u =>
      have hts : [u] = ts := by simpa [Argument.contracts, hs] using h
      rw [← hts] at ht
      exact List.mem_singleton.mp ht ▸ hs

/-- One feed keeps the list or replaces it by what its argument names. -/
theorem Directive.listed_of_feed {d d' : Directive} {f : Slot × Argument} {t : TypeName}
    (h : d.feed f = .ok d') (ht : t ∈ d'.listed) : t ∈ d.listed ∨ f.2.Lists t := by
  obtain ⟨slot, arg⟩ := f
  cases slot with
  | lifetime => cases h; exact .inl ht
  | mode => cases h; exact .inl ht
  | label => cases h; exact .inl ht
  | contracts =>
    cases hts : arg.contracts with
    | error fault => simp [Directive.feed, hts] at h
    | ok ts =>
      have hd : { d with listed := ts } = d' := by simpa [Directive.feed, hts] using h
      rw [← hd] at ht
      exact .inr (Argument.lists_of_contracts hts ht)

theorem Directive.listed_of_feedAll {d d' : Directive} {fs : List (Slot × Argument)} {t : TypeName}
    (h : d.feedAll fs = .ok d') (ht : t ∈ d'.listed) :
    t ∈ d.listed ∨ ∃ f ∈ fs, f.2.Lists t := by
  induction fs generalizing d with
  | nil => cases h; exact .inl ht
  | cons f rest ih =>
    unfold Directive.feedAll at h
    split at h
    · next d₁ h₁ =>
      rcases ih h with hd | ⟨g, hg, hlists⟩
      · exact (listed_of_feed h₁ hd).imp_right fun hf => ⟨f, List.mem_cons_self, hf⟩
      · exact .inr ⟨g, List.mem_cons_of_mem f hg, hlists⟩
    · cases h

theorem Mark.mem_feeds {kind : Kind} {a : Mark} {f : Slot × Argument} (h : f ∈ a.feeds kind) :
    f.2 ∈ a.positional ++ a.named.map NamedArgument.value := by
  rcases List.mem_append.mp h with hp | hn
  · exact List.mem_append_left _ (List.of_mem_zip hp).2
  · obtain ⟨n, hmem, he⟩ := List.mem_filterMap.mp hn
    obtain ⟨slot, -, rfl⟩ := Option.map_eq_some_iff.mp he
    exact List.mem_append_right _ (List.mem_map_of_mem hmem)

/-- A directive has no blank label, and lists only what its annotation names. -/
theorem KindRegistry.directive_of_resolve {kinds : KindRegistry} {typeName : String} {a : Mark}
    {d : Directive} (h : kinds.resolve typeName a = .ok d) :
    (∀ l, d.label = some l → Text.isBlankText l = false) ∧ ∀ t ∈ d.listed, a.Lists t := by
  unfold KindRegistry.resolve at h
  split at h
  · next hdirective =>
    cases h
    unfold KindRegistry.directive at hdirective
    split at hdirective
    · next kind _ =>
      split at hdirective
      · next d₁ hfed =>
        cases hdirective
        constructor
        · intro l hl
          have hl : normalLabel d₁.label = some l := hl
          simpa using (Option.filter_eq_some_iff.mp hl).2
        · intro t ht
          rcases Directive.listed_of_feedAll hfed ht with hinit | ⟨f, hf, hlists⟩
          · simp [Directive.initial] at hinit
          · exact ⟨f.2, Mark.mem_feeds hf, hlists⟩
      · cases hdirective
    · cases hdirective
  · cases h

/-- An annotation that is recognized and can be resolved, with the type that carries it. -/
structure Accepted where
  type : DeclaredType
  mark : Mark
  directive : Directive
  deriving DecidableEq

def accept? (kinds : KindRegistry) (t : DeclaredType) (a : Mark) : Option Accepted :=
  if kinds.recognizes a.tag then (kinds.resolve t.name.qualified a).toOption.map (⟨t, a, ·⟩)
  else none

/-- The accepted annotations in the order of the types and, within a type, in their own order. -/
def accepted (kinds : KindRegistry) (types : List DeclaredType) : List Accepted :=
  types.flatMap fun t => t.marks.filterMap (accept? kinds t)

namespace Accepted

/-- The block of registrations that an accepted annotation stands for. -/
def block (policy : ListedPolicy) (x : Accepted) : List Registration :=
  (servicesByMode policy x.type x.directive).map fun service =>
    { group := x.type.name.qualified
      label := x.directive.label
      service := service
      implementation := x.type.name
      lifetime := x.directive.lifetime }

/-- What holds of every registration in the block of an accepted annotation. -/
structure Owns (x : Accepted) (r : Registration) : Prop where
  implementation : r.implementation = x.type.name
  group : r.group = x.type.name.qualified
  lifetime : r.lifetime = x.directive.lifetime
  label : r.label = x.directive.label
  label_not_blank : ∀ l, r.label = some l → Text.isBlankText l = false
  service : r.service = x.type.name ∨ r.service ∈ x.type.contracts ∨ x.mark.Lists r.service

end Accepted

theorem mem_accepted {kinds : KindRegistry} {types : List DeclaredType} {x : Accepted} :
    x ∈ accepted kinds types ↔ x.type ∈ types ∧ x.mark ∈ x.type.marks ∧
      kinds.recognizes x.mark.tag = true ∧
      kinds.resolve x.type.name.qualified x.mark = .ok x.directive := by
  obtain ⟨t, a, d⟩ := x
  simp only [accepted, accept?, List.mem_flatMap, List.mem_filterMap]
  constructor
  · rintro ⟨t', ht, a', ha, h⟩
    split at h
    · next hr =>
      obtain ⟨d', hd, hx⟩ := Option.map_eq_some_iff.mp h
      cases hx
      cases hres : kinds.resolve t.name.qualified a with
      | error e => simp [hres, Except.toOption] at hd
      | ok d'' => exact ⟨ht, ha, hr, by simpa [hres, Except.toOption] using hd⟩
    · cases h
  · rintro ⟨ht, ha, hr, hd⟩
    exact ⟨t, ht, a, ha, by simp [hr, hd, Except.toOption]⟩

theorem Accepted.owns {kinds : KindRegistry} {types : List DeclaredType} {policy : ListedPolicy}
    {x : Accepted} {r : Registration} (hx : x ∈ accepted kinds types) (hr : r ∈ x.block policy) :
    x.Owns r := by
  obtain ⟨hlabel, hlisted⟩ := KindRegistry.directive_of_resolve (mem_accepted.mp hx).2.2.2
  obtain ⟨service, hservice, rfl⟩ := List.mem_map.mp hr
  exact ⟨rfl, rfl, rfl, rfl, hlabel,
    (mem_servicesByMode hservice).imp_right fun h => h.imp_right (hlisted service)⟩

private theorem registrations_mark {kinds : KindRegistry} {t : DeclaredType} {a : Mark}
    (policy : ListedPolicy) (h : kinds.recognizes a.tag = true) :
    Encounter.registrations kinds policy (.mark t a) =
      (accept? kinds t a).elim [] (Accepted.block policy) := by
  cases hres : kinds.resolve t.name.qualified a with
  | error e => simp [Encounter.registrations, accept?, h, hres, Except.toOption]
  | ok d =>
    simp [Encounter.registrations, accept?, h, hres, Except.toOption, Accepted.block,
      DeclaredType.registrations, DeclaredType.groupName, services_eq_byMode]

/-- A registration binds a type to itself exactly where its service is the type of the block. -/
theorem Accepted.isSelfBinding_iff {policy : ListedPolicy} {x : Accepted} {r : Registration}
    (hr : r ∈ x.block policy) : r.isSelfBinding = true ↔ r.service = x.type.name := by
  obtain ⟨service, -, rfl⟩ := List.mem_map.mp hr
  exact beq_iff_eq

/-- A type that offers itself nowhere is bound to itself only where it is bound to nothing else. -/
theorem Accepted.block_of_isSelfBinding {policy : ListedPolicy} {x : Accepted} {r : Registration}
    (hcontracts : x.type.name ∉ x.type.contracts) (hlisted : x.type.name ∉ x.directive.listed)
    (hr : r ∈ x.block policy) (hself : r.isSelfBinding = true) : x.block policy = [r] := by
  have hservice := (isSelfBinding_iff hr).mp hself
  obtain ⟨service, hmem, rfl⟩ := List.mem_map.mp hr
  obtain rfl : service = x.type.name := hservice
  rw [block, servicesByMode_of_mem_name hcontracts hlisted hmem, List.map_singleton]

/-- What a pass gathers at one type are the blocks of its accepted annotations. -/
private theorem registrations_ofType (kinds : KindRegistry) (policy : ListedPolicy)
    (t : DeclaredType) :
    (Encounter.ofType kinds t).flatMap (Encounter.registrations kinds policy) =
      (t.marks.filterMap (accept? kinds t)).flatMap (Accepted.block policy) := by
  rw [Encounter.flatMap_registrations_ofType, Pass.recognized]
  induction t.marks with
  | nil => rfl
  | cons a rest ih =>
    by_cases hr : kinds.recognizes a.tag = true
    · simp only [List.filter_cons, hr, if_true, List.flatMap_cons, registrations_mark policy, ih]
      cases ha : accept? kinds t a <;> simp [ha]
    · have ha : accept? kinds t a = none := by simp [accept?, hr]
      simp only [List.filter_cons, hr, List.filterMap_cons_none ha, ← ih]
      rfl

theorem registrations_ofTypes (kinds : KindRegistry) (policy : ListedPolicy)
    (types : List DeclaredType) :
    (types.flatMap (Encounter.ofType kinds)).flatMap (Encounter.registrations kinds policy) =
      (accepted kinds types).flatMap (Accepted.block policy) := by
  simp only [accepted, List.flatMap_assoc, registrations_ofType]

/-- What the types ask for, one after another, are the blocks of the accepted annotations. -/
theorem flatMap_contribution (kinds : KindRegistry) (policy : ListedPolicy)
    (types : List DeclaredType) : types.flatMap (Pass.contribution kinds policy) =
      (accepted kinds types).flatMap (Accepted.block policy) := by
  rw [← registrations_ofTypes, List.flatMap_assoc]
  rfl

/-- A pass that succeeds registers the blocks of the accepted annotations, one behind the other. A
block is empty only where a list is asked for of which the type implements nothing. -/
theorem plan_registers (options : PassOptions) (u : BuildUnit) (kinds : KindRegistry)
    (rs : List Registration) (hkinds : u.kinds = some kinds)
    (hrs : (Pass.plan options u).result = .ok rs) :
    rs = (accepted kinds u.types).flatMap (Accepted.block options.listed) ∧
      ∀ x ∈ accepted kinds u.types,
        (∀ r ∈ x.block options.listed, x.Owns r) ∧
        (x.block options.listed = [] ↔
          x.directive.mode = .listed ∧ options.listed = .implementedOnly ∧
            x.directive.listed ≠ [] ∧ ∀ c ∈ x.directive.listed, c ∉ x.type.contracts) := by
  have hwalk : (Encounter.walk kinds options (u.types.flatMap (Encounter.ofType kinds))).result =
      .ok rs := by
    rw [← Encounter.planTypes_eq_walk]
    simpa [Pass.plan, hkinds] using hrs
  refine ⟨?_, fun x hx => ⟨fun r hr => Accepted.owns hx hr, ?_⟩⟩
  · rw [← registrations_ofTypes]
    exact Encounter.result_walk_ok hwalk
  · rw [← servicesByMode_eq_nil, Accepted.block, List.map_eq_nil_iff]

/-- A store with a list that it implements in part, one that it does not implement at all, and an
annotation that cannot be resolved. -/
def storeUnit : BuildUnit :=
  { name := "App"
    types :=
      [{ name := ⟨"App", "Store"⟩
         contracts := [⟨"App", "IRead"⟩, ⟨"App", "IWrite"⟩]
         marks :=
           [⟨"ScopedServiceAttribute", [.code 2], []⟩,
            ⟨"Obsolete", [], []⟩,
            ⟨"Injectable", [.code 0, .code 4], [⟨"interfaces", .text "App.ICopy"⟩]⟩,
            ⟨"Injectable", [.code 0, .code 4, .text "App."], []⟩,
            ⟨"Injectable", [.code 0, .code 4, .types [⟨"App", "ICopy"⟩, ⟨"App", "IWrite"⟩],
              .text "NET8"], []⟩] }]
    kinds := some .builtin }

def storeRegistrations : List Registration :=
  [⟨"App.Store", none, ⟨"App", "IRead"⟩, ⟨"App", "Store"⟩, .scoped⟩,
   ⟨"App.Store", none, ⟨"App", "IWrite"⟩, ⟨"App", "Store"⟩, .scoped⟩,
   ⟨"App.Store", some "NET8", ⟨"App", "IWrite"⟩, ⟨"App", "Store"⟩, .singleton⟩]

theorem storeUnit_registers :
    storeUnit.kinds = some .builtin ∧
      (Pass.plan ⟨.implementedOnly, .skip⟩ storeUnit).result = .ok storeRegistrations ∧
      storeRegistrations =
        (accepted .builtin storeUnit.types).flatMap (Accepted.block .implementedOnly) := by
  have h : (Pass.plan ⟨.implementedOnly, .skip⟩ storeUnit).result = .ok storeRegistrations := by rfl
  exact ⟨rfl, h, (plan_registers ⟨.implementedOnly, .skip⟩ storeUnit .builtin storeRegistrations
    rfl h).1⟩

end ServiceWiring
