import Mathlib.Data.List.Basic
import Mathlib.Logic.Function.Basic

/-!
FIFO lanes served by strict priority. An item joins the end of the lane it
names, items leave at the head, and the lane served next is the one above all
others that hold anything. A volatile lane may give up its oldest items to make
room for a new one; every other lane loses an item only by serving or
discarding it. `conserves` is the ledger of a history: what a lane accepted is
what left it, in order, followed by what it still holds.
-/

namespace OnlyTwo.Lanes

variable {Lane Item : Type}

/-- What an observer sees of one operation. -/
inductive Change (Lane Item : Type) where
  | accepted (item : Item) (dropped : Nat)
  | refused (item : Item)
  | served (item : Item)
  | idle
  | discarded (lane : Lane) (items : List Item)
  deriving DecidableEq, Repr

variable [DecidableEq Lane]

section Transitions
variable (laneOf : Item → Lane) (volatile : Lane → Prop) (above : Lane → Lane → Prop)

inductive Step (queues : Lane → List Item) : Change Lane Item → (Lane → List Item) → Prop where
  | accepted (item : Item) (dropped : Nat) :
      (0 < dropped → volatile (laneOf item)) → dropped ≤ (queues (laneOf item)).length →
      Step queues (.accepted item dropped)
        (Function.update queues (laneOf item) ((queues (laneOf item)).drop dropped ++ [item]))
  | refused (item : Item) : Step queues (.refused item) queues
  | served (lane : Lane) (item : Item) (rest : List Item) :
      queues lane = item :: rest → (∀ other, other ≠ lane → queues other ≠ [] → above lane other) →
      Step queues (.served item) (Function.update queues lane rest)
  | idle : (∀ lane, queues lane = []) → Step queues .idle queues
  | discarded (lane : Lane) :
      Step queues (.discarded lane (queues lane)) (Function.update queues lane [])

inductive Steps (start : Lane → List Item) : List (Change Lane Item) → (Lane → List Item) → Prop where
  | refl : Steps start [] start
  | next {history : List (Change Lane Item)} {change : Change Lane Item}
      {before after : Lane → List Item} :
      Steps start history before → Step laneOf volatile above before change after →
      Steps start (history ++ [change]) after

end Transitions

section Ledger
variable (laneOf : Item → Lane) (lane : Lane)

def Change.accepts : Change Lane Item → List Item
  | .accepted item _ => if laneOf item = lane then [item] else []
  | _ => []

/-- What left a lane by being served or discarded. -/
def Change.releases : Change Lane Item → List Item
  | .served item => if laneOf item = lane then [item] else []
  | .discarded other items => if other = lane then items else []
  | _ => []

def accepted (history : List (Change Lane Item)) : List Item :=
  history.flatMap (Change.accepts laneOf lane)

def released (history : List (Change Lane Item)) : List Item :=
  history.flatMap (Change.releases laneOf lane)

end Ledger

variable {laneOf : Item → Lane} {volatile : Lane → Prop} {above : Lane → Lane → Prop}
  {start before after finish : Lane → List Item} {change : Change Lane Item}
  {history : List (Change Lane Item)}

theorem Steps.append {later : List (Change Lane Item)} {middle : Lane → List Item}
    (first : Steps laneOf volatile above start history middle)
    (second : Steps laneOf volatile above middle later finish) :
    Steps laneOf volatile above start (history ++ later) finish := by
  induction second with
  | refl => simpa using first
  | next _ step ih =>
      rw [← List.append_assoc]
      exact .next ih step

theorem Step.steps (step : Step laneOf volatile above before change after) :
    Steps laneOf volatile above before [change] after :=
  .next .refl step

/-- Every item waits on the lane it names. -/
def Filed (laneOf : Item → Lane) (queues : Lane → List Item) : Prop :=
  ∀ lane, ∀ item ∈ queues lane, laneOf item = lane

theorem Filed.update {queues : Lane → List Item} {lane : Lane} {items : List Item}
    (filed : Filed laneOf queues) (named : ∀ item ∈ items, laneOf item = lane) :
    Filed laneOf (Function.update queues lane items) := by
  intro other item member
  by_cases same : other = lane
  · subst same
    rw [Function.update_self] at member
    exact named item member
  · rw [Function.update_of_ne same] at member
    exact filed other item member

theorem Step.filed (step : Step laneOf volatile above before change after)
    (filed : Filed laneOf before) : Filed laneOf after := by
  cases step with
  | accepted item dropped =>
      apply filed.update
      intro other member
      rcases List.mem_append.mp member with earlier | new
      · exact filed _ other (List.mem_of_mem_drop earlier)
      · rw [List.mem_singleton.mp new]
  | refused item => exact filed
  | served lane item rest held =>
      apply filed.update
      intro other member
      exact filed lane other (held ▸ List.mem_cons_of_mem item member)
  | idle => exact filed
  | discarded lane => exact filed.update (by simp)

theorem Steps.filed (steps : Steps laneOf volatile above start history finish)
    (filed : Filed laneOf start) : Filed laneOf finish := by
  induction steps with
  | refl => exact filed
  | next _ step ih => exact step.filed ih

/-- One operation balances: what a lane held and accepted is what it released
and holds. -/
theorem Step.conserves (step : Step laneOf volatile above before change after)
    (filed : Filed laneOf before) {lane : Lane} (lasting : ¬ volatile lane) :
    before lane ++ change.accepts laneOf lane = change.releases laneOf lane ++ after lane := by
  cases step with
  | accepted item dropped only _ =>
      by_cases same : laneOf item = lane
      · subst same
        -- Only a volatile lane drops what it holds.
        have none : dropped = 0 := by
          by_contra some
          exact lasting (only (Nat.pos_of_ne_zero some))
        simp [Change.accepts, Change.releases, none]
      · simp [Change.accepts, Change.releases, same, Function.update_of_ne (Ne.symm same)]
  | refused item => simp [Change.accepts, Change.releases]
  | served served item rest held =>
      -- What a lane holds is filed under it, so the served item counts for this lane alone.
      have named : laneOf item = served := filed served item (by simp [held])
      by_cases same : served = lane
      · subst same
        simp [Change.accepts, Change.releases, named, held]
      · simp [Change.accepts, Change.releases, named, same, Function.update_of_ne (Ne.symm same)]
  | idle => simp [Change.accepts, Change.releases]
  | discarded other =>
      by_cases same : other = lane
      · subst same
        simp [Change.accepts, Change.releases]
      · simp [Change.accepts, Change.releases, same, Function.update_of_ne (Ne.symm same)]

/-- The ledger of a whole history. -/
theorem Steps.conserves (steps : Steps laneOf volatile above start history finish)
    (filed : Filed laneOf start) {lane : Lane} (lasting : ¬ volatile lane) :
    start lane ++ accepted laneOf lane history = released laneOf lane history ++ finish lane := by
  induction steps with
  | refl => simp [accepted, released]
  | @next history change middle last steps step ih =>
      have balanced := step.conserves (steps.filed filed) lasting
      calc start lane ++ accepted laneOf lane (history ++ [change])
          = (start lane ++ accepted laneOf lane history) ++ change.accepts laneOf lane := by
            simp [accepted]
        _ = released laneOf lane history ++ (middle lane ++ change.accepts laneOf lane) := by
            rw [ih, List.append_assoc]
        _ = released laneOf lane (history ++ [change]) ++ last lane := by
            simp [balanced, released]

section Passing

/-- The items that name a lane, in their order. -/
def onLane (laneOf : Item → Lane) (lane : Lane) (items : List Item) : List Item :=
  items.filter fun item => laneOf item = lane

/-- Between two states `joined` came in and `left` came out. Every lane keeps its
order, and a lane that is not lossy keeps its items until they leave. -/
structure Passes (laneOf : Item → Lane) (lossy : Lane → Prop) (before : Lane → List Item)
    (joined left : List Item) (after : Lane → List Item) : Prop where
  order : ∀ lane,
    (onLane laneOf lane left ++ after lane).Sublist (before lane ++ onLane laneOf lane joined)
  whole : ∀ lane, ¬ lossy lane →
    onLane laneOf lane left ++ after lane = before lane ++ onLane laneOf lane joined

variable {lossy weaker : Lane → Prop} {joined left more gone : List Item} {item : Item}

theorem onLane_append (lane : Lane) :
    onLane laneOf lane (joined ++ more) = onLane laneOf lane joined ++ onLane laneOf lane more :=
  List.filter_append ..

theorem onLane_singleton (lane : Lane) :
    onLane laneOf lane [item] = if laneOf item = lane then [item] else [] := by
  by_cases same : laneOf item = lane
  · rw [if_pos same]
    exact List.filter_cons_of_pos (by simpa using same)
  · rw [if_neg same]
    exact List.filter_cons_of_neg (by simpa using same)

/-- Whatever left the heads of the lanes is lost, on lossy lanes only. -/
theorem Passes.of_suffix (suffix : ∀ lane, after lane <:+ before lane)
    (same : ∀ lane, ¬ lossy lane → after lane = before lane) :
    Passes laneOf lossy before [] [] after where
  order lane := by
    rw [show onLane laneOf lane [] = [] from rfl, List.append_nil]
    exact (suffix lane).sublist
  whole lane kept := by
    rw [show onLane laneOf lane [] = [] from rfl, List.append_nil]
    exact same lane kept

theorem Passes.refl : Passes laneOf lossy before [] [] before :=
  .of_suffix (fun _ => List.suffix_rfl) fun _ _ => rfl

theorem Passes.trans (first : Passes laneOf lossy start joined left before)
    (second : Passes laneOf lossy before more gone after) :
    Passes laneOf lossy start (joined ++ more) (left ++ gone) after where
  order lane := by
    rw [onLane_append, onLane_append, List.append_assoc, ← List.append_assoc (start lane)]
    have later := (second.order lane).append_left (onLane laneOf lane left)
    refine later.trans ?_
    rw [← List.append_assoc]
    exact (first.order lane).append_right _
  whole lane kept := by
    rw [onLane_append, onLane_append, List.append_assoc, second.whole lane kept,
      ← List.append_assoc, first.whole lane kept, List.append_assoc]

theorem Passes.mono (passes : Passes laneOf lossy before joined left after)
    (only : ∀ lane, lossy lane → weaker lane) : Passes laneOf weaker before joined left after :=
  ⟨passes.order, fun lane kept => passes.whole lane fun holds => kept (only lane holds)⟩

/-- An item joins the end of its lane. -/
theorem Passes.join (item : Item) : Passes laneOf lossy before [item] []
    (Function.update before (laneOf item) (before (laneOf item) ++ [item])) := by
  have same (lane : Lane) : onLane laneOf lane [] ++
      Function.update before (laneOf item) (before (laneOf item) ++ [item]) lane =
        before lane ++ onLane laneOf lane [item] := by
    rw [onLane_singleton, Function.update_apply]
    by_cases here : lane = laneOf item
    · rw [if_pos here, if_pos here.symm, here]
      rfl
    · rw [if_neg here, if_neg (Ne.symm here), List.append_nil]
      rfl
  exact ⟨fun lane => same lane ▸ List.Sublist.refl _, fun lane _ => same lane⟩

/-- The head of a lane is served. -/
theorem Passes.serve {lane : Lane} {rest : List Item} (held : before lane = item :: rest)
    (named : laneOf item = lane) :
    Passes laneOf lossy before [] [item] (Function.update before lane rest) := by
  have same (other : Lane) : onLane laneOf other [item] ++ Function.update before lane rest other =
      before other ++ onLane laneOf other [] := by
    rw [onLane_singleton, Function.update_apply, named, show onLane laneOf other [] = [] from rfl,
      List.append_nil]
    by_cases here : lane = other
    · rw [if_pos here, if_pos here.symm, ← here, held]
      rfl
    · rw [if_neg here, if_neg (Ne.symm here)]
      rfl
  exact ⟨fun other => same other ▸ List.Sublist.refl _, fun other _ => same other⟩

/-- An item of a lossy lane may be lost on its way out. -/
theorem Passes.lose (passes : Passes laneOf lossy before joined (item :: left) after)
    (lost : lossy (laneOf item)) : Passes laneOf lossy before joined left after where
  order lane := by
    refine .trans ?_ (passes.order lane)
    exact ((List.sublist_cons_self item left).filter _).append_right (after lane)
  whole lane kept := by
    have other : ¬ laneOf item = lane := fun same => kept (same ▸ lost)
    have whole := passes.whole lane kept
    unfold onLane at whole ⊢
    rw [List.filter_cons_of_neg (by simpa using other)] at whole
    exact whole

end Passing

end OnlyTwo.Lanes
