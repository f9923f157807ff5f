import Mathlib.Data.List.DropRight
import Mathlib.Logic.Relation
import Reflash.Fault.Board
import Reflash.Proofs.Fault.Cells

/-!
# What a shared flag remembers

Handles that were made by sharing one another belong to one flag. What such a handle reports can be
told from the actions alone, without looking at any flag: the flag is raised if a reason was given
through one of its handles since it was last cleared through one of them, and the reason to be taken
is the first that was given since the flag was last cleared or its reason last taken.

The proof follows the flags by their numbers. `Recalls` says that a flag is what the actions have
made of it, and holds of every number after every action; `sameFlag_iff` says that handles which
were made by sharing one another are those with the same number. What the actions make of the two
cells of a flag is calculated by `cellsAfter`, and is what the flag on the board has in its cells.
-/

namespace Reflash.Fault

namespace Flag

/-- A reason that is there already is kept when another is given. -/
theorem reason?_raise (flag : Flag) (reason : String) :
    (flag.raise reason).reason? = flag.reason?.or (some reason) := by
  cases flag with
  | lowered => rfl
  | raised first => cases first <;> rfl

/-- A flag whose reason was taken away has none. -/
theorem reason?_withoutReason (flag : Flag) : flag.withoutReason.reason? = none := by
  cases flag <;> rfl

end Flag

/-! ## Reading actions -/

namespace Action

/-- The handle that an action goes through. -/
def handle? : Action → Option Nat
  | .raise handle _ | .clear handle | .takeReason handle | .share handle => some handle
  | .fresh => none

section Flag

variable (on : Nat → Prop) [DecidablePred on]

/-- The reason that an action gives to the flag with the handles `on`. -/
def reason? : Action → Option String
  | .raise handle reason => if on handle then some reason else none
  | _ => none

/-- Whether an action clears the flag with the handles `on`. -/
def clears : Action → Bool
  | .clear handle => on handle
  | _ => false

/-- Whether an action takes the reason of the flag with the handles `on`. -/
def takes : Action → Bool
  | .takeReason handle => on handle
  | _ => false

/-- The reasons that actions give to the flag with the handles `on`, in order. -/
def reasons (actions : List Action) : List String :=
  actions.filterMap (reason? on)

/-- What an action does to the cells of the flag with the handles `on`. -/
def work (cells : Cells) : Action → Cells
  | .raise handle reason => if on handle then cells.raise reason else cells
  | .clear handle => if on handle then cells.clear else cells
  | .takeReason handle => if on handle then cells.takeReason.2 else cells
  | .share _ | .fresh => cells

/-- What actions make of the cells of the flag with the handles `on`, which begins lowered. -/
def cellsAfter (actions : List Action) : Cells :=
  actions.foldl (work on) .lowered

end Flag

/-- What was done after the last of the actions that `stop`. -/
def since (stop : Action → Bool) (actions : List Action) : List Action :=
  actions.rtakeWhile fun action => !stop action

/-- An action that stops leaves nothing behind it, and any other is one more. -/
theorem since_concat (stop : Action → Bool) (actions : List Action) (action : Action) :
    since stop (actions ++ [action]) =
      if stop action then [] else since stop actions ++ [action] := by
  unfold since
  rw [List.rtakeWhile_concat]
  cases stop action <;> rfl

/-- A further action gives its own reason at most, behind the others. -/
theorem reasons_concat (on : Nat → Prop) [DecidablePred on] (actions : List Action)
    (action : Action) :
    reasons on (actions ++ [action]) = reasons on actions ++ (action.reason? on).toList := by
  unfold reasons
  rw [List.filterMap_append]
  cases hreason : action.reason? on with
  | none => rw [List.filterMap_cons_none hreason]; rfl
  | some reason => rw [List.filterMap_cons_some hreason]; rfl

/-- The last action works on what the actions before it have left. -/
theorem cellsAfter_concat (on : Nat → Prop) [DecidablePred on] (actions : List Action)
    (action : Action) :
    cellsAfter on (actions ++ [action]) = action.work on (cellsAfter on actions) := by
  unfold cellsAfter
  rw [List.foldl_append, List.foldl_cons, List.foldl_nil]

/-- An action that gives no reason to a flag, does not clear it and takes no reason from it leaves
its cells alone. -/
theorem work_eq_self {on : Nat → Prop} [DecidablePred on] {action : Action} (cells : Cells)
    (hreason : action.reason? on = none) (hclears : action.clears on = false)
    (htakes : action.takes on = false) : action.work on cells = cells := by
  cases action with
  | raise handle reason =>
      by_cases hon : on handle
      · rw [Action.reason?, if_pos hon] at hreason
        cases hreason
      · exact if_neg hon
  | clear handle => exact if_neg (of_decide_eq_false hclears)
  | takeReason handle => exact if_neg (of_decide_eq_false htakes)
  | share | fresh => rfl

/-- A flag is given just the reasons that are given through one of its handles. -/
theorem mem_reasons {on : Nat → Prop} [DecidablePred on] {actions : List Action}
    {reason : String} :
    reason ∈ reasons on actions ↔ ∃ handle, .raise handle reason ∈ actions ∧ on handle := by
  unfold reasons
  rw [List.mem_filterMap]
  constructor
  · rintro ⟨action, hmem, hreason⟩
    cases action with
    | raise handle given =>
        obtain ⟨hon, rfl⟩ := Option.ite_some_none_eq_some.mp hreason
        exact ⟨handle, hmem, hon⟩
    | clear | takeReason | share | fresh => cases hreason
  · rintro ⟨handle, hmem, hon⟩
    exact ⟨_, hmem, if_pos hon⟩

end Action

open Fault.Action

section Flag

variable {on : Nat → Prop} [DecidablePred on] {actions : List Action} {flag : Flag} {handle : Nat}

/-- The flag with the handles `on` is what the actions have made of it. -/
structure Recalls (on : Nat → Prop) [DecidablePred on] (actions : List Action) (flag : Flag) :
    Prop where
  isRaised_eq : flag.isRaised = !(reasons on (since (Action.clears on) actions)).isEmpty
  reason?_eq : flag.reason? = (reasons on
    (since (fun action => action.clears on || action.takes on) actions)).head?
  cells_eq : flag.cells = cellsAfter on actions

/-- A lowered flag has nothing to recall. -/
theorem Recalls.nil : Recalls on [] .lowered :=
  ⟨rfl, rfl, rfl⟩

/-- A flag recalls a reason that is given through one of its handles. -/
theorem Recalls.raise (h : Recalls on actions flag) (hon : on handle) (reason : String) :
    Recalls on (actions ++ [.raise handle reason]) (flag.raise reason) where
  isRaised_eq := by
    simp [since_concat, reasons_concat, Action.clears, Action.reason?, hon]
  reason?_eq := by
    rw [Flag.reason?_raise, h.reason?_eq]
    simp [since_concat, reasons_concat, Action.clears, Action.takes, Action.reason?, hon]
  cells_eq := by
    rw [Flag.cells_raise, h.cells_eq, cellsAfter_concat, Action.work, if_pos hon]

/-- A flag recalls nothing from before it was cleared. -/
theorem Recalls.clear (hon : on handle) : Recalls on (actions ++ [.clear handle]) .lowered where
  isRaised_eq := by
    simp [since_concat, Action.clears, hon, reasons, Flag.isRaised]
  reason?_eq := by
    simp [since_concat, Action.clears, hon, reasons, Flag.reason?]
  cells_eq := by
    rw [cellsAfter_concat, Action.work, if_pos hon]
    rfl

/-- A flag recalls that its reason was taken. -/
theorem Recalls.takeReason (h : Recalls on actions flag) (hon : on handle) :
    Recalls on (actions ++ [.takeReason handle]) flag.withoutReason where
  isRaised_eq := by
    rw [Flag.isRaised_withoutReason, h.isRaised_eq]
    simp [since_concat, reasons_concat, Action.clears, Action.reason?]
  reason?_eq := by
    rw [Flag.reason?_withoutReason]
    simp [since_concat, Action.clears, Action.takes, hon, reasons]
  cells_eq := by
    rw [cellsAfter_concat, Action.work, if_pos hon, ← h.cells_eq, Flag.cells_withoutReason]

/-- An action that is nothing to the flag leaves it as it was. -/
theorem Recalls.other (h : Recalls on actions flag) {action : Action}
    (hreason : action.reason? on = none) (hclears : action.clears on = false)
    (htakes : action.takes on = false) : Recalls on (actions ++ [action]) flag where
  isRaised_eq := by
    rw [h.isRaised_eq, since_concat, hclears, if_neg Bool.false_ne_true, reasons_concat, hreason,
      Option.toList_none, List.append_nil]
  reason?_eq := by
    rw [h.reason?_eq, since_concat, hclears, htakes, Bool.or_false, if_neg Bool.false_ne_true,
      reasons_concat, hreason, Option.toList_none, List.append_nil]
  cells_eq := by
    rw [h.cells_eq, cellsAfter_concat, work_eq_self _ hreason hclears htakes]

end Flag

namespace Board

/-! ## Flags by their numbers -/

/-- The flag with a given number. A number that was never given stands for a lowered flag. -/
def numbered (board : Board) (number : Nat) : Flag :=
  board.flags[number]?.getD .lowered

/-- Every handle belongs to a flag that is there. -/
def Sound (board : Board) : Prop :=
  ∀ number ∈ board.handles, number < board.flags.length

/-- Every action goes through a handle that was made before it. -/
def Usable : Board → List Action → Prop
  | _, [] => True
  | board, action :: rest =>
    (∀ handle ∈ action.handle?, handle < board.handles.length) ∧ (board.act action).2.Usable rest

instance decidableUsable : (board : Board) → (actions : List Action) →
    Decidable (board.Usable actions)
  | _, [] => .isTrue trivial
  | board, action :: rest =>
    have := decidableUsable (board.act action).2 rest
    inferInstanceAs (Decidable (_ ∧ _))

variable {board : Board} {actions : List Action} {handle number : Nat}

/-- The flag behind a handle is the one with the number of the handle. -/
theorem flag_eq_numbered (h : board.handles[handle]? = some number) :
    board.flag handle = board.numbered number := by
  unfold flag numbered
  rw [h]
  rfl

/-- A change reaches the flag of its handle and no other. -/
theorem numbered_change (hsound : board.Sound) (f : Flag → Flag) :
    (board.change handle f).numbered number =
      if board.handles[handle]? = some number then f (board.numbered number)
      else board.numbered number := by
  unfold change numbered
  cases hhandle : board.handles[handle]? with
  | none => simp
  | some other =>
      have hother := hsound other (List.mem_of_getElem? hhandle)
      simp only [List.getElem?_modify, Option.some.injEq]
      by_cases heq : other = number
      · subst heq
        simp [List.getElem?_eq_getElem hother]
      · simp [heq]

/-- Changing a flag leaves the handles alone. -/
theorem handles_change (f : Flag → Flag) : (board.change handle f).handles = board.handles := by
  unfold change
  cases board.handles[handle]? <;> rfl

/-- Handles are never lost and never given to another flag. -/
theorem handles_act (action : Action) : board.handles <+: (board.act action).2.handles := by
  cases action with
  | raise | clear | takeReason => exact (handles_change _) ▸ List.prefix_rfl
  | share | fresh => exact List.prefix_append _ _

/-- Changing a flag leaves a board sound. -/
theorem Sound.change (hsound : board.Sound) (f : Flag → Flag) :
    (board.change handle f).Sound := by
  intro other hother
  rw [handles_change] at hother
  have hlength : (board.change handle f).flags.length = board.flags.length := by
    unfold Board.change
    cases board.handles[handle]? with
    | none => rfl
    | some => exact List.length_modify _ _ _
  rw [hlength]
  exact hsound other hother

/-- Every action leaves a board sound. -/
theorem Sound.act (hsound : board.Sound) (action : Action) : (board.act action).2.Sound := by
  cases action with
  | raise | clear | takeReason => exact hsound.change _
  | share handle =>
      intro other hother
      rcases List.mem_append.mp hother with hold | hnew
      · exact hsound other hold
      · rw [Option.mem_toList] at hnew
        exact hsound other (List.mem_of_getElem? hnew)
  | fresh =>
      intro other hother
      show other < (board.flags ++ [Flag.lowered]).length
      rw [List.length_append, List.length_singleton]
      rcases List.mem_append.mp hother with hold | hnew
      · exact Nat.lt_succ_of_lt (hsound other hold)
      · rw [List.mem_singleton.mp hnew]
        exact Nat.lt_succ_self _

/-- A flag that is made later is lowered, as is the flag of a number that was never given. -/
theorem numbered_fresh : (board.act .fresh).2.numbered number = board.numbered number := by
  show (board.flags ++ [Flag.lowered])[number]?.getD _ = board.flags[number]?.getD _
  rcases Nat.lt_trichotomy number board.flags.length with hthere | rfl | hbeyond
  · rw [List.getElem?_append_left hthere]
  · simp
  · rw [List.getElem?_eq_none (Nat.le_of_lt hbeyond), List.getElem?_eq_none]
    rwa [List.length_append, List.length_singleton]

/-- What is done to one flag is nothing to another. -/
theorem numbered_act_of_ne (hsound : board.Sound) {action : Action}
    (h : ∀ other ∈ action.handle?, board.handles[other]? ≠ some number) :
    (board.act action).2.numbered number = board.numbered number := by
  cases action with
  | raise other | clear other | takeReason other =>
      rw [act, numbered_change hsound, if_neg (h other rfl)]
  | share => rfl
  | fresh => exact numbered_fresh

/-! ## Runs -/

/-- Actions can be done in two goes. -/
theorem run_append (board : Board) (first second : List Action) :
    board.run (first ++ second) = (board.run first).run second :=
  List.foldl_append

/-- Actions in two goes are usable if the later ones are where the earlier ones end. -/
theorem usable_append {board : Board} {first second : List Action} :
    board.Usable (first ++ second) ↔ board.Usable first ∧ (board.run first).Usable second := by
  induction first generalizing board with
  | nil => exact (and_iff_right trivial).symm
  | cons action rest ih =>
      show _ ∧ (board.act action).2.Usable (rest ++ second) ↔ (_ ∧ _) ∧ _
      rw [ih, and_assoc]
      rfl

/-- Handles are never taken away, and never renumbered. -/
theorem handles_run (board : Board) (actions : List Action) :
    board.handles <+: (board.run actions).handles := by
  induction actions generalizing board with
  | nil => exact List.prefix_rfl
  | cons action rest ih => exact (handles_act action).trans (ih _)

/-- Every run leaves a board sound. -/
theorem Sound.run (hsound : board.Sound) (actions : List Action) : (board.run actions).Sound := by
  induction actions generalizing board with
  | nil => exact hsound
  | cons action rest ih => exact ih (hsound.act action)

/-- The board with a single flag is sound. -/
theorem sound_single : single.Sound := by
  intro number hnumber
  rw [List.mem_singleton.mp hnumber]
  decide

section Recalls

variable {on : Nat → Prop} [DecidablePred on]

/-- Every action makes of a flag what it has to recall. -/
theorem recalls_act (hsound : board.Sound) {action : Action}
    (hon : ∀ handle ∈ action.handle?, (board.handles[handle]? = some number ↔ on handle))
    (h : Recalls on actions (board.numbered number)) :
    Recalls on (actions ++ [action]) ((board.act action).2.numbered number) := by
  -- what is done through a handle of another flag is nothing to be recalled
  cases action with
  | raise handle reason =>
      rw [act, numbered_change hsound]
      by_cases hhandle : on handle
      · rw [if_pos ((hon handle rfl).mpr hhandle)]
        exact h.raise hhandle reason
      · rw [if_neg (mt (hon handle rfl).mp hhandle)]
        exact h.other (if_neg hhandle) rfl rfl
  | clear handle =>
      rw [act, numbered_change hsound]
      by_cases hhandle : on handle
      · rw [if_pos ((hon handle rfl).mpr hhandle)]
        exact .clear hhandle
      · rw [if_neg (mt (hon handle rfl).mp hhandle)]
        exact h.other rfl (decide_eq_false hhandle) rfl
  | takeReason handle =>
      rw [act, numbered_change hsound]
      by_cases hhandle : on handle
      · rw [if_pos ((hon handle rfl).mpr hhandle)]
        exact h.takeReason hhandle
      · rw [if_neg (mt (hon handle rfl).mp hhandle)]
        exact h.other rfl rfl (decide_eq_false hhandle)
  | share handle => exact h.other rfl rfl rfl
  | fresh =>
      rw [numbered_fresh]
      exact h.other rfl rfl rfl

/-- After a run, every flag recalls what was done through the handles that are its own in the
end. -/
theorem recalls_run {all : List Nat} (husable : single.Usable actions)
    (hall : (single.run actions).handles <+: all)
    (hon : ∀ handle, on handle ↔ all[handle]? = some number) :
    Recalls on actions ((single.run actions).numbered number) := by
  induction actions using List.reverseRecOn with
  | nil =>
      have hlowered : (single.run []).numbered number = .lowered := by
        rcases number with _ | _ <;> rfl
      rw [hlowered]
      exact .nil
  | append_singleton actions action ih =>
      obtain ⟨hbefore, haction, _⟩ := usable_append.mp husable
      rw [run_append] at hall ⊢
      have hkept : (single.run actions).handles <+: all := (handles_act action).trans hall
      refine recalls_act (sound_single.run actions) ?_ (ih hbefore hkept)
      -- a handle that is used is there, and stays with its flag
      intro handle hhandle
      obtain ⟨later, rfl⟩ := hkept
      rw [hon, List.getElem?_append_left (haction handle hhandle)]

end Recalls

/-! ## Handles of one flag -/

/-- The second handle was made by sharing the first. -/
inductive Shared (actions : List Action) : Nat → Nat → Prop where
  | intro {earlier source later} : actions = earlier ++ .share source :: later →
      Shared actions source (single.run earlier).handles.length

/-- Two handles are of one flag if they are linked by sharing, in whatever order. -/
def SameFlag (actions : List Action) : Nat → Nat → Prop :=
  Relation.EqvGen (Shared actions)

/-- What was shared stays shared, whatever is done later. -/
theorem Shared.append {source copy : Nat} (h : Shared actions source copy)
    (later : List Action) : Shared (actions ++ later) source copy := by
  obtain ⟨rfl⟩ := h
  exact .intro (List.append_assoc _ _ _)

/-- Handles of one flag stay handles of one flag, whatever is done later. -/
theorem SameFlag.append {first second : Nat} (h : SameFlag actions first second)
    (later : List Action) : SameFlag (actions ++ later) first second :=
  Relation.EqvGen.mono (fun _ _ hshared => hshared.append later) _ _ h

/-- A handle has the number of the handle that it was made from. -/
theorem Shared.getElem?_eq (husable : single.Usable actions) {source copy : Nat}
    (h : Shared actions source copy) :
    (single.run actions).handles[source]? = (single.run actions).handles[copy]? := by
  obtain @⟨earlier, source, later, rfl⟩ := h
  have hsource : source < (single.run earlier).handles.length :=
    (usable_append.mp husable).2.1 source rfl
  have hafter : (single.run earlier).handles ++ [(single.run earlier).handles[source]] <+:
      (single.run (earlier ++ .share source :: later)).handles := by
    rw [run_append]
    refine List.IsPrefix.trans ?_ (handles_run _ later)
    show _ <+: (single.run earlier).handles ++ ((single.run earlier).handles[source]?).toList
    rw [List.getElem?_eq_getElem hsource]
    exact List.prefix_rfl
  obtain ⟨others, hothers⟩ := hafter
  rw [← hothers, List.append_assoc, List.getElem?_append_left hsource,
    List.getElem?_append_right (Nat.le_refl _), Nat.sub_self, List.getElem?_eq_getElem hsource]
  rfl

/-- What is found in a list with one more at its end was there before or is the last. -/
theorem getElem?_concat_eq_some {numbers : List Nat} {last i number : Nat}
    (h : (numbers ++ [last])[i]? = some number) :
    numbers[i]? = some number ∨ i = numbers.length ∧ last = number := by
  rcases Nat.lt_or_ge i numbers.length with hold | hnew
  · rw [List.getElem?_append_left hold] at h
    exact .inl h
  · rw [List.getElem?_append_right hnew, List.getElem?_singleton] at h
    split at h
    · exact .inr ⟨by omega, Option.some.inj h⟩
    · cases h

/-- Handles with the same number are linked by sharing. -/
theorem sameFlag_of_getElem?_eq (husable : single.Usable actions) {first second number : Nat}
    (hfirst : (single.run actions).handles[first]? = some number)
    (hsecond : (single.run actions).handles[second]? = some number) :
    SameFlag actions first second := by
  induction actions using List.reverseRecOn generalizing first second number with
  | nil =>
      obtain ⟨hone, _⟩ := List.getElem?_eq_some_iff.mp hfirst
      obtain ⟨htwo, _⟩ := List.getElem?_eq_some_iff.mp hsecond
      rw [Nat.lt_one_iff.mp hone, Nat.lt_one_iff.mp htwo]
      exact .refl 0
  | append_singleton actions action ih =>
      obtain ⟨hbefore, haction, _⟩ := usable_append.mp husable
      have hsound : (single.run actions).Sound := sound_single.run actions
      rw [run_append] at hfirst hsecond
      have hold {one two : Nat} (hone : (single.run actions).handles[one]? = some number)
          (htwo : (single.run actions).handles[two]? = some number) :
          SameFlag (actions ++ [action]) one two :=
        (ih hbefore hone htwo).append [action]
      cases action with
      | raise handle | clear handle | takeReason handle =>
          rw [run, List.foldl_cons, List.foldl_nil, act, handles_change] at hfirst hsecond
          exact hold hfirst hsecond
      | share source =>
          have hsource := List.getElem?_eq_getElem (haction source rfl)
          -- the new handle is linked to the one that it was made from
          have hlinked {one : Nat}
              (hone : ((single.run actions).run [.share source]).handles[one]? = some number) :
              ∃ other, (single.run actions).handles[other]? = some number ∧
                SameFlag (actions ++ [.share source]) other one := by
            change (_ ++ ((single.run actions).handles[source]?).toList)[one]? = _ at hone
            rw [hsource] at hone
            rcases getElem?_concat_eq_some hone with hthere | ⟨rfl, hnumber⟩
            · exact ⟨one, hthere, .refl one⟩
            · exact ⟨source, hnumber ▸ hsource, .rel _ _ (.intro rfl)⟩
          obtain ⟨one, hone, hfirst⟩ := hlinked hfirst
          obtain ⟨two, htwo, hsecond⟩ := hlinked hsecond
          exact (hfirst.symm _ _).trans _ _ _ ((hold hone htwo).trans _ _ _ hsecond)
      | fresh =>
          change (_ ++ [(single.run actions).flags.length])[_]? = _ at hfirst hsecond
          -- the number of the new flag is none of those given before
          have hnew : (single.run actions).flags.length ∉ (single.run actions).handles :=
            fun hmem => Nat.lt_irrefl _ (hsound _ hmem)
          rcases getElem?_concat_eq_some hfirst with hone | ⟨rfl, rfl⟩ <;>
            rcases getElem?_concat_eq_some hsecond with htwo | ⟨rfl, hnumber⟩
          · exact hold hone htwo
          · exact absurd (List.mem_of_getElem? (hnumber ▸ hone)) hnew
          · exact absurd (List.mem_of_getElem? htwo) hnew
          · exact .refl _

/-- Two handles are of one flag exactly if they have its number. -/
theorem sameFlag_iff (husable : single.Usable actions) {first second number : Nat}
    (hfirst : (single.run actions).handles[first]? = some number) :
    SameFlag actions first second ↔ (single.run actions).handles[second]? = some number := by
  constructor
  · intro h
    rw [← hfirst]
    clear hfirst
    induction h with
    | rel _ _ hshared => exact (hshared.getElem?_eq husable).symm
    | refl => rfl
    | symm _ _ _ ih => exact ih.symm
    | trans _ _ _ _ _ ih ih' => exact ih'.trans ih
  · exact sameFlag_of_getElem?_eq husable hfirst

/-! ## The law -/

open Classical in
/-- After any actions on shared flags, a handle tells what was done through the handles of its flag.
It is raised if one of these was given a reason since one of them was last cleared, and gives away
the first reason since then, or since a reason was last taken. It has no reason unless it is raised.
Taking a reason lowers no flag, and what is done to other flags is nothing to this one. In its two
cells is what the actions through the handles of the flag make of a lowered pair. -/
theorem flag_recalls_history (husable : single.Usable actions) :
    let board := single.run actions
    ∀ handle < board.handles.length,
      let on := SameFlag actions handle
      let flag := board.flag handle
      (flag.isRaised = true ↔
        ∃ other reason, .raise other reason ∈ since (Action.clears on) actions ∧ on other) ∧
      (board.act (.takeReason handle)).1 =
        (reasons on (since (fun action => action.clears on || action.takes on) actions)).head? ∧
      (flag.reason? ≠ none → flag.isRaised = true) ∧
      (∀ other, ((board.act (.takeReason other)).2.flag handle).isRaised = flag.isRaised) ∧
      flag.cells = cellsAfter on actions ∧
      ∀ action, (∀ other ∈ action.handle?, ¬ on other) →
        (board.act action).2.flag handle = flag := by
  intro board handle hhandle on flag
  have hnumber := List.getElem?_eq_getElem hhandle
  generalize board.handles[handle] = number at hnumber
  have hsound : board.Sound := sound_single.run actions
  have hon (other : Nat) : on other ↔ board.handles[other]? = some number :=
    sameFlag_iff husable hnumber
  have hflag : flag = board.numbered number := flag_eq_numbered hnumber
  -- an action adds handles behind those there are, so each of them stays with its flag
  have hlater (action : Action) :
      (board.act action).2.flag handle = (board.act action).2.numbered number := by
    have hgrows : board.handles <+: (board.act action).2.handles := handles_act action
    obtain ⟨later, hlater⟩ := hgrows
    apply flag_eq_numbered
    rw [← hlater, List.getElem?_append_left hhandle, hnumber]
  have hrecalls : Recalls on actions flag := by
    rw [hflag]
    exact recalls_run husable List.prefix_rfl hon
  refine ⟨?_, hrecalls.reason?_eq, ?_, ?_, hrecalls.cells_eq, ?_⟩
  · rw [hrecalls.isRaised_eq, Bool.not_eq_true', List.isEmpty_eq_false_iff_exists_mem,
      exists_comm]
    exact exists_congr fun reason => mem_reasons
  · intro hreason
    cases hcase : flag with
    | lowered =>
        rw [hcase] at hreason
        exact absurd rfl hreason
    | raised => rfl
  · intro other
    rw [hlater, hflag, act, numbered_change hsound]
    split
    · exact Flag.isRaised_withoutReason _
    · rfl
  · intro action hother
    rw [hlater, hflag]
    exact numbered_act_of_ne hsound fun other hmem => mt (hon other).mpr (hother other hmem)

open Classical in
/-- A flag with two handles whose reason was taken before another was given, beside a flag that was
cleared. -/
theorem flag_recalls_history_two_flags :
    let actions : List Action := [.raise 0 "bus off", .share 0, .takeReason 1, .raise 1 "overflow",
      .raise 0 "timeout", .fresh, .raise 2 "lost", .clear 2]
    single.Usable actions ∧ SameFlag actions 0 1 ∧ ¬ SameFlag actions 0 2 ∧
    (∃ other reason, .raise other reason ∈
      since (Action.clears (SameFlag actions 0)) actions ∧ SameFlag actions 0 other) ∧
    (reasons (SameFlag actions 0) (since (fun action => action.clears (SameFlag actions 0) ||
      action.takes (SameFlag actions 0)) actions)).head? = some "overflow" ∧
    ((single.run actions).act (.clear 2)).2.flag 0 = .raised (some "overflow") := by
  intro actions
  have husable : single.Usable actions := by decide
  have hhandle : 0 < (single.run actions).handles.length := by decide
  have hnumber : (single.run actions).handles[0]? = some 0 := rfl
  have hother : ¬ SameFlag actions 0 2 := by
    rw [sameFlag_iff husable hnumber]
    decide
  obtain ⟨hraised, hreason, _, _, _, hframe⟩ := flag_recalls_history husable 0 hhandle
  refine ⟨husable, (sameFlag_iff husable hnumber).mpr rfl, hother, hraised.mp rfl, hreason.symm, ?_⟩
  exact hframe (.clear 2) fun other hmem => by
    cases hmem
    exact hother

end Board

end Reflash.Fault
