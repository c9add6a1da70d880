import ServiceWiring.Mark.Resolution

/-! The arguments that decide. Each attribute of a directive is taken from the last argument fed to its
own slot, whatever is fed to the others. A contract that is no name of a type is refused even where a
later argument would replace it. -/
namespace ServiceWiring

/-- Where a slot stands among the positional arguments. A kind that implies a lifetime has no place for
another. -/
def Slot.position? : Kind → Slot → Option Nat
  | .injectable, .lifetime => some 0
  | .injectable, .mode => some 1
  | .injectable, .contracts => some 2
  | .injectable, .label => some 3
  | _, .lifetime => none
  | _, .mode => some 0
  | _, .contracts => some 1
  | _, .label => some 2

namespace Argument

/-- The lifetimes by their codes. Whatever else is given stands for transient. -/
def lifetimeByCode : Argument → Lifetime
  | .code 0 => .singleton
  | .code 1 => .scoped
  | _ => .transient

/-- The modes by their codes. Whatever else is given stands for the automatic choice. -/
def modeByCode : Argument → Mode
  | .code 1 => .firstContract
  | .code 2 => .allContracts
  | .code 3 => .itself
  | .code 4 => .listed
  | _ => .auto

/-- The contracts that an argument lists, or the one that it names. -/
def contractsNamed : Argument → List TypeName
  | .types ts => ts
  | .text s => (TypeName.parse? s).toList
  | _ => []

/-- The text of an argument, unless there is nothing to see in it. -/
def visibleText : Argument → Option String
  | .text s => if Text.isBlankText s then none else some s
  | _ => none

theorem lifetime_eq_byCode (a : Argument) : a.lifetime = a.lifetimeByCode := by
  cases a with
  | code n =>
    have hcode : (code n).lifetime = Lifetime.ofCode n := rfl
    rw [hcode]
    unfold lifetimeByCode
    split <;> simp_all [Lifetime.ofCode]
  | absent => rfl
  | types ts => rfl
  | text s => rfl

theorem mode_eq_byCode (a : Argument) : a.mode = a.modeByCode := by
  cases a with
  | code n =>
    have hcode : (code n).mode = Mode.ofCode n := rfl
    rw [hcode]
    unfold modeByCode
    split <;> simp_all [Mode.ofCode]
  | absent => rfl
  | types ts => rfl
  | text s => rfl

/-- The text of an argument that should name a type and does not. -/
def misnamed? : Argument → Option String
  | .text s => if TypeName.parse? s = none then some s else none
  | _ => none

theorem misnamed?_eq_some_iff {a : Argument} {s : String} :
    a.misnamed? = some s ↔ a = .text s ∧ TypeName.parse? s = none := by
  cases a with
  | text s' =>
    simp only [misnamed?, Option.ite_none_right_eq_some, Option.some.injEq, text.injEq]
    constructor
    · rintro ⟨h, rfl⟩
      exact ⟨rfl, h⟩
    · rintro ⟨rfl, h⟩
      exact ⟨h, rfl⟩
  | _ => simp [misnamed?]

theorem contracts_eq (a : Argument) :
    a.contracts = a.misnamed?.elim (.ok a.contractsNamed) fun s => .error (.badContract s) := by
  cases a with
  | text s => cases h : TypeName.parse? s <;> simp [contracts, contractsNamed, misnamed?, h]
  | absent => rfl
  | code n => rfl
  | types ts => rfl

theorem normalLabel_text? (a : Argument) : normalLabel a.text? = a.visibleText := by
  cases a with
  | text s => cases h : Text.isBlankText s <;> simp [normalLabel, text?, visibleText, h]
  | absent => rfl
  | code n => rfl
  | types ts => rfl

end Argument

/-- The arguments among the feeds that go to one slot. -/
def fedTo (slot : Slot) (fs : List (Slot × Argument)) : List Argument :=
  fs.filterMap fun f => if f.1 = slot then some f.2 else none

theorem fedTo_cons (slot : Slot) (f : Slot × Argument) (rest : List (Slot × Argument)) :
    fedTo slot (f :: rest) = if f.1 = slot then f.2 :: fedTo slot rest else fedTo slot rest := by
  unfold fedTo
  split <;> simp_all

/-- The arguments of an annotation that are fed to a slot, in order: the positional one in its place,
and then the named ones. -/
def Mark.fed (a : Mark) (kind : Kind) (slot : Slot) : List Argument :=
  ((Slot.position? kind slot).bind (a.positional[·]?)).toList ++
    (a.named.filter fun arg => Slot.ofName? arg.name = some slot).map NamedArgument.value

private theorem fedTo_zip (kind : Kind) (slot : Slot) (positional : List Argument) :
    fedTo slot ((Slot.ofKind kind).zip positional) =
      ((Slot.position? kind slot).bind (positional[·]?)).toList := by
  rcases positional with _ | ⟨p, _ | ⟨q, _ | ⟨r, _ | ⟨s, rest⟩⟩⟩⟩ <;> cases kind <;> cases slot <;> rfl

theorem fedTo_feeds (a : Mark) (kind : Kind) (slot : Slot) :
    fedTo slot (a.feeds kind) = a.fed kind slot := by
  have hnamed : fedTo slot
        (a.named.filterMap fun arg => (Slot.ofName? arg.name).map (·, arg.value)) =
      (a.named.filter fun arg => Slot.ofName? arg.name = some slot).map NamedArgument.value := by
    induction a.named with
    | nil => rfl
    | cons arg rest ih =>
      unfold fedTo at ih ⊢
      cases h : Slot.ofName? arg.name with
      | none => simpa [h] using ih
      | some other => by_cases hs : other = slot <;> simpa [h, hs] using ih
  rw [Mark.feeds, Mark.fed, ← hnamed, ← fedTo_zip]
  exact List.filterMap_append

namespace Directive

/-- The directive with every attribute that is fed set by its last feed. -/
def after (d : Directive) (fs : List (Slot × Argument)) : Directive :=
  { lifetime := ((fedTo .lifetime fs).getLast?.map Argument.lifetime).getD d.lifetime
    mode := ((fedTo .mode fs).getLast?.map Argument.mode).getD d.mode
    listed := ((fedTo .contracts fs).getLast?.map Argument.contractsNamed).getD d.listed
    label := ((fedTo .label fs).getLast?.map Argument.text?).getD d.label }

private theorem getLast?_cons_getD {α β : Type} (g : α → β) (a : α) (as : List α) (b : β) :
    ((a :: as).getLast?.map g).getD b = (as.getLast?.map g).getD (g a) := by
  rw [List.getLast?_cons]
  cases as.getLast? <;> rfl

/-- One feed sets its own attribute, and a later feed of the same slot would set it again. -/
theorem after_cons (d : Directive) (f : Slot × Argument) (rest : List (Slot × Argument)) :
    d.after (f :: rest) =
      match f with
      | (.lifetime, a) => { d with lifetime := a.lifetime }.after rest
      | (.mode, a) => { d with mode := a.mode }.after rest
      | (.contracts, a) => { d with listed := a.contractsNamed }.after rest
      | (.label, a) => { d with label := a.text? }.after rest := by
  obtain ⟨slot, a⟩ := f
  cases slot <;> simp [after, fedTo_cons, getLast?_cons_getD]

/-- All feeds: the last of each slot counts, unless a contract among them is no name of a type. -/
theorem feedAll_eq (d : Directive) (fs : List (Slot × Argument)) :
    d.feedAll fs =
      ((fedTo .contracts fs).findSome? Argument.misnamed?).elim (.ok (d.after fs))
        fun s => .error (.badContract s) := by
  induction fs generalizing d with
  | nil => rfl
  | cons f rest ih =>
    obtain ⟨slot, a⟩ := f
    rw [feedAll, after_cons, fedTo_cons]
    cases slot with
    | lifetime => exact ih _
    | mode => exact ih _
    | label => exact ih _
    | contracts =>
      rw [feed, a.contracts_eq]
      cases h : a.misnamed? with
      | none => simpa [h] using ih _
      | some s => simp [h]

end Directive

/-- What keeps an annotation from being resolved. -/
inductive KindRegistry.Obstacle (kinds : KindRegistry) (a : Mark) : MarkFault → Prop where
  | unrecognized : kinds.lookup? a.tag = none → Obstacle kinds a .unrecognized
  | withoutMeaning {entry : KindEntry} : kinds.lookup? a.tag = some entry → entry.kind = none →
      Obstacle kinds a .withoutMeaning
  | badContract {entry : KindEntry} {kind : Kind} {s : String} :
      kinds.lookup? a.tag = some entry → entry.kind = some kind →
      .text s ∈ a.fed kind .contracts → TypeName.parse? s = none → Obstacle kinds a (.badContract s)

/-- The directive that takes each attribute from the last argument fed to its slot, or from the kind
where there is none. -/
def Mark.lastDirective (a : Mark) (kind : Kind) : Directive :=
  { lifetime := ((a.fed kind .lifetime).getLast?.map Argument.lifetimeByCode).getD
      (kind.impliedLifetime?.getD .transient)
    mode := ((a.fed kind .mode).getLast?.map Argument.modeByCode).getD .auto
    listed := ((a.fed kind .contracts).getLast?.map Argument.contractsNamed).getD []
    label := (a.fed kind .label).getLast?.bind Argument.visibleText }

theorem normalized_after_feeds (a : Mark) (kind : Kind) :
    ((Directive.initial kind).after (a.feeds kind)).normalized = a.lastDirective kind := by
  have hlifetime : Argument.lifetime = Argument.lifetimeByCode :=
    funext Argument.lifetime_eq_byCode
  have hmode : Argument.mode = Argument.modeByCode := funext Argument.mode_eq_byCode
  have hlabel (last : Option Argument) :
      normalLabel ((last.map Argument.text?).getD none) = last.bind Argument.visibleText := by
    cases last with
    | none => rfl
    | some arg => exact arg.normalLabel_text?
  simp only [Directive.normalized, Directive.after, Directive.initial, fedTo_feeds, hlifetime,
    hmode, hlabel, Mark.lastDirective]

/-- An annotation is resolved unless its tag or one of its contracts stands in the way. Each attribute
is then that of the last argument for it, and every error tells the type and the tag as written. -/
theorem resolve_lastFed (kinds : KindRegistry) (typeName : String) (a : Mark) :
    match kinds.resolve typeName a with
    | .error e => e.typeName = typeName ∧ e.tag = a.tag ∧ kinds.Obstacle a e.fault
    | .ok d => (∀ fault, ¬kinds.Obstacle a fault) ∧
        ∃ entry kind, kinds.lookup? a.tag = some entry ∧ entry.kind = some kind ∧
          d = a.lastDirective kind := by
  rw [KindRegistry.resolve, KindRegistry.directive, KindRegistry.kindOf]
  cases hentry : kinds.lookup? a.tag with
  | none => exact ⟨rfl, rfl, .unrecognized hentry⟩
  | some entry =>
    cases hkind : entry.kind with
    | none =>
      simp only [hkind]
      exact ⟨trivial, trivial, .withoutMeaning hentry hkind⟩
    | some kind =>
      simp only [hkind, Directive.feedAll_eq, fedTo_feeds]
      cases hmisnamed : (a.fed kind .contracts).findSome? Argument.misnamed? with
      | some s =>
        obtain ⟨arg, harg, hs⟩ := List.exists_of_findSome?_eq_some hmisnamed
        obtain ⟨rfl, hparse⟩ := Argument.misnamed?_eq_some_iff.mp hs
        exact ⟨rfl, rfl, .badContract hentry hkind harg hparse⟩
      | none =>
        refine ⟨fun fault hobstacle => ?_, entry, kind, rfl, hkind, normalized_after_feeds a kind⟩
        cases hobstacle with
        | unrecognized h => simp [hentry] at h
        | withoutMeaning h hnone =>
          obtain rfl := Option.some.inj (hentry.symm.trans h)
          simp [hkind] at hnone
        | badContract h hsome hmem hparse =>
          obtain rfl := Option.some.inj (hentry.symm.trans h)
          obtain rfl := Option.some.inj (hkind.symm.trans hsome)
          have hclean := List.findSome?_eq_none_iff.mp hmisnamed _ hmem
          rw [Argument.misnamed?_eq_some_iff.mpr ⟨rfl, hparse⟩] at hclean
          cases hclean

example : KindRegistry.builtin.resolve "App.Store"
      ⟨"Injectable", [.code 0, .code 2, .text "App."], [⟨"interfaces", .types []⟩]⟩ =
    .error ⟨"App.Store", "Injectable", .badContract "App."⟩ := by rfl

end ServiceWiring
