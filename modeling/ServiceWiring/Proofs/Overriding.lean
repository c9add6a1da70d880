import ServiceWiring.Proofs.Resolution

/-! Arguments that others override. A positional argument that is given again by name decides nothing. It
is read all the same: where it should name a contract and does not, the annotation is refused. -/
namespace ServiceWiring

/-- Where a slot has its place, the table of its kind has the slot. -/
theorem Slot.getElem?_ofKind {kind : Kind} {slot : Slot} {position : Nat}
    (h : position? kind slot = some position) : (ofKind kind)[position]? = some slot := by
  cases kind <;> cases slot <;> cases h <;> rfl

theorem Slot.position?_injective {kind : Kind} {slot other : Slot} {position : Nat}
    (hslot : position? kind slot = some position) (hother : position? kind other = some position) :
    slot = other :=
  Option.some.inj ((getElem?_ofKind hslot).symm.trans (getElem?_ofKind hother))

namespace Mark

/-- The annotation with another value at a position. -/
def withPositional (a : Mark) (position : Nat) (value : Argument) : Mark :=
  { a with positional := a.positional.set position value }

/-- The arguments that are fed to a slot by its name, in order. -/
def fedByName (a : Mark) (slot : Slot) : List Argument :=
  (a.named.filter fun arg => Slot.ofName? arg.name = some slot).map NamedArgument.value

/-- The first text among the contracts of an annotation that names no type. -/
def misnamed? (a : Mark) (kind : Kind) : Option String :=
  (a.fed kind .contracts).findSome? Argument.misnamed?

variable {a : Mark} {kind : Kind} {slot : Slot} {position : Nat} {old : Argument}

theorem fedByName_ne_nil (h : ∃ arg ∈ a.named, Slot.ofName? arg.name = some slot) :
    a.fedByName slot ≠ [] := by
  obtain ⟨arg, hmem, hname⟩ := h
  apply List.ne_nil_of_mem
  exact List.mem_map_of_mem (List.mem_filter.mpr ⟨hmem, by simpa using hname⟩)

/-- A positional argument is fed to its slot before the named ones. -/
theorem fed_of_positional (hposition : Slot.position? kind slot = some position)
    (hold : a.positional[position]? = some old) : a.fed kind slot = old :: a.fedByName slot := by
  rw [fed, hposition, Option.bind_some, hold]
  rfl

theorem positional_withPositional (hold : a.positional[position]? = some old) (new : Argument) :
    (a.withPositional position new).positional[position]? = some new := by
  obtain ⟨hlt, -⟩ := List.getElem?_eq_some_iff.mp hold
  exact List.getElem?_set_self hlt

/-- Another value at a position is fed to the slot of this position and to no other. -/
theorem fed_withPositional_of_ne (hposition : Slot.position? kind slot = some position) {other : Slot}
    (hne : other ≠ slot) (new : Argument) :
    (a.withPositional position new).fed kind other = a.fed kind other := by
  cases hother : Slot.position? kind other with
  | none => simp [fed, withPositional, hother]
  | some place =>
    have hplace : position ≠ place := by
      rintro rfl
      exact hne (Slot.position?_injective hother hposition)
    simp [fed, withPositional, hother, List.getElem?_set_ne hplace]

private theorem getLast?_cons_of_ne_nil {α : Type} {as : List α} (h : as ≠ []) (a : α) :
    (a :: as).getLast? = as.getLast? := by
  rw [List.getLast?_cons]
  cases has : as.getLast? with
  | none => exact absurd (List.getLast?_eq_none_iff.mp has) h
  | some last => rfl

/-- The last argument of a slot is a named one where there is any, whatever stands at the position. -/
theorem lastDirective_withPositional (hposition : Slot.position? kind slot = some position)
    (hold : a.positional[position]? = some old) (hnamed : a.fedByName slot ≠ []) (new : Argument) :
    (a.withPositional position new).lastDirective kind = a.lastDirective kind := by
  have hlast (other : Slot) :
      ((a.withPositional position new).fed kind other).getLast? = (a.fed kind other).getLast? := by
    by_cases h : other = slot
    · subst h
      rw [fed_of_positional hposition hold,
        fed_of_positional hposition (positional_withPositional hold new),
        getLast?_cons_of_ne_nil hnamed]
      exact getLast?_cons_of_ne_nil hnamed new
    · rw [fed_withPositional_of_ne hposition h]
  simp only [lastDirective, hlast]

theorem misnamed?_of_positional (hposition : Slot.position? kind .contracts = some position)
    (hold : a.positional[position]? = some old) :
    a.misnamed? kind =
      old.misnamed?.or ((a.fedByName .contracts).findSome? Argument.misnamed?) := by
  rw [misnamed?, fed_of_positional hposition hold, List.findSome?_cons]
  cases old.misnamed? <;> rfl

end Mark

/-- What an annotation comes to by its directive and its first misnamed contract. -/
def Mark.verdict (a : Mark) (typeName : String) (d : Directive) (misnamed : Option String) :
    Except MarkError Directive :=
  misnamed.elim (.ok d) fun s => .error ⟨typeName, a.tag, .badContract s⟩

theorem Mark.verdict_injective (a : Mark) (typeName : String) (d : Directive) :
    Function.Injective (a.verdict typeName d) := by
  intro misnamed others h
  cases misnamed with
  | none => cases others <;> simp_all [verdict]
  | some s => cases others <;> simp_all [verdict]

namespace KindRegistry
variable {kinds : KindRegistry} {a : Mark} {kind : Kind}

/-- An annotation of a kind is refused for its first misnamed contract and for nothing else. -/
theorem resolve_of_kindOf (hkind : kinds.kindOf a.tag = .ok kind) (typeName : String) :
    kinds.resolve typeName a = a.verdict typeName (a.lastDirective kind) (a.misnamed? kind) := by
  simp only [resolve, directive, hkind, Directive.feedAll_eq, fedTo_feeds]
  rw [← Mark.misnamed?]
  cases a.misnamed? kind with
  | none => exact congrArg Except.ok (normalized_after_feeds a kind)
  | some s => rfl

theorem resolve_withPositional (hkind : kinds.kindOf a.tag = .ok kind) (typeName : String)
    {slot : Slot} {position : Nat} {old : Argument}
    (hposition : Slot.position? kind slot = some position)
    (hold : a.positional[position]? = some old) (hnamed : a.fedByName slot ≠ []) (new : Argument) :
    kinds.resolve typeName (a.withPositional position new) =
      a.verdict typeName (a.lastDirective kind) ((a.withPositional position new).misnamed? kind) := by
  have hkindNew : kinds.kindOf (a.withPositional position new).tag = .ok kind := hkind
  rw [resolve_of_kindOf hkindNew, Mark.lastDirective_withPositional hposition hold hnamed]
  rfl

end KindRegistry

/-- A positional argument that a named one overrides can be replaced by any other, and nothing changes, as
long as it does not come to another misnamed contract. A misnamed contract is refused though it is
overridden. -/
theorem resolve_overridden (kinds : KindRegistry) (typeName : String) (a : Mark) (kind : Kind)
    (slot : Slot) (position : Nat) (old new : Argument) (hkind : kinds.kindOf a.tag = .ok kind)
    (hposition : Slot.position? kind slot = some position)
    (hold : a.positional[position]? = some old)
    (hnamed : ∃ arg ∈ a.named, Slot.ofName? arg.name = some slot) :
    let replaced := a.withPositional position new
    let later := (a.fedByName .contracts).findSome? Argument.misnamed?
    (kinds.resolve typeName replaced = kinds.resolve typeName a ↔
        (slot = .contracts → new.misnamed?.or later = old.misnamed?.or later)) ∧
      (slot = .contracts → ∀ s, new.misnamed? = some s →
        kinds.resolve typeName replaced = .error ⟨typeName, a.tag, .badContract s⟩) := by
  intro replaced later
  have hresolve := KindRegistry.resolve_of_kindOf hkind typeName
  have hreplaced : kinds.resolve typeName replaced = _ :=
    KindRegistry.resolve_withPositional hkind typeName hposition hold
      (Mark.fedByName_ne_nil hnamed) new
  rw [hresolve, hreplaced, (a.verdict_injective typeName _).eq_iff]
  by_cases hslot : slot = .contracts
  · subst hslot
    have hnew := Mark.positional_withPositional hold new
    have hmisnamed : replaced.misnamed? kind = new.misnamed?.or later :=
      Mark.misnamed?_of_positional hposition hnew
    rw [Mark.misnamed?_of_positional hposition hold, hmisnamed]
    refine ⟨by simp [later], fun _ s hs => ?_⟩
    rw [hs]
    rfl
  · have hsame : replaced.misnamed? kind = a.misnamed? kind := by
      rw [Mark.misnamed?, Mark.misnamed?, Mark.fed_withPositional_of_ne hposition (Ne.symm hslot)]
    exact ⟨⟨fun _ h => absurd h hslot, fun _ => hsame⟩, fun h => absurd h hslot⟩

/-- A shelf with contracts both in their place and by name. -/
def shelfMark : Mark :=
  ⟨"Injectable", [.code 0, .code 4, .types [⟨"App", "ICopy"⟩]],
    [⟨"Interfaces", .types [⟨"App", "IStore"⟩]⟩]⟩

def shelfDirective : Directive := ⟨.singleton, .listed, [⟨"App", "IStore"⟩], none⟩

theorem shelfMark_overridden :
    KindRegistry.builtin.kindOf shelfMark.tag = .ok .injectable ∧
      Slot.position? .injectable .contracts = some 2 ∧
      shelfMark.positional[2]? = some (.types [⟨"App", "ICopy"⟩]) ∧
      (∃ arg ∈ shelfMark.named, Slot.ofName? arg.name = some .contracts) ∧
      KindRegistry.builtin.resolve "App.Shelf" shelfMark = .ok shelfDirective ∧
      KindRegistry.builtin.resolve "App.Shelf" (shelfMark.withPositional 2 (.text "App.IRead")) =
        .ok shelfDirective := by
  have hnamed : ∃ arg ∈ shelfMark.named, Slot.ofName? arg.name = some .contracts :=
    ⟨_, List.mem_cons_self, by rfl⟩
  obtain ⟨hsame, -⟩ := resolve_overridden .builtin "App.Shelf" shelfMark .injectable .contracts 2
    (.types [⟨"App", "ICopy"⟩]) (.text "App.IRead") (by rfl) rfl rfl hnamed
  have hdirective : KindRegistry.builtin.resolve "App.Shelf" shelfMark = .ok shelfDirective := by rfl
  have hread : (Argument.text "App.IRead").misnamed? = none := by rfl
  exact ⟨by rfl, rfl, rfl, hnamed, hdirective, (hsame.mpr fun _ => by rw [hread]; rfl).trans hdirective⟩

/-- The contract that is overridden is misnamed, and the one that overrides it is not. -/
theorem shelfMark_refused :
    (∃ arg ∈ shelfMark.named, Slot.ofName? arg.name = some .contracts) ∧
      Slot.position? .injectable .contracts = some 2 ∧
      KindRegistry.builtin.resolve "App.Shelf" shelfMark = .ok shelfDirective ∧
      KindRegistry.builtin.resolve "App.Shelf" (shelfMark.withPositional 2 (.text "App.")) =
        .error ⟨"App.Shelf", "Injectable", .badContract "App."⟩ :=
  ⟨⟨_, List.mem_cons_self, by rfl⟩, rfl, by rfl, by rfl⟩

end ServiceWiring
