import TelephonyAlerts.Proofs.Audience

/-!
# The order of delivery

A showing makes one call for every profile that its audience admits, in the order in which the
device lists them.  Where the host fails at one of these calls, exactly those before it are made,
and where it fails to list the profiles, none is.  What a profile gets is settled by the profile
alone.
-/

namespace TelephonyAlerts

namespace Delivery

variable {σ : Type} {s : σ} {e e' e'' : Session} {calls : List ShellCall} {handles : List Int}
  {r : Except Failure (List Int)} {address : Address} {alert : Alert} {o : Bool}

/-! ## 1. How far a showing gets -/

/-- A showing that is to make the given calls makes them all, or it makes those before the one that
the host fails at. -/
inductive Reaches (e : Session) (calls : List ShellCall) (handles : List Int) :
    Except Failure (List Int) → Session → Prop
  | whole {e' : Session} (answers : e.Answers .present calls.length) (after : e.After calls e') :
    Reaches e calls handles (.ok handles) e'
  | cut {e' : Session} {k : Nat} {f : Failure} (fails : e.faults .present = some ⟨k, f⟩)
    (short : k < calls.length) (after : e.After (calls.take k) e') :
    Reaches e calls handles (.error f) e'

theorem Reaches.then (faults : e'.faults .present = e.faults .present) (after : e.After [] e')
    (reaches : Reaches e' calls handles r e'') : Reaches e calls handles r e'' := by
  cases reaches with
  | whole answers after' =>
    refine .whole (fun fault hfault => ?_) (after.then after')
    exact answers fault (faults.trans hfault)
  | cut fails short after' => exact .cut (faults ▸ fails) short (after.then after')

-- A call that is answered puts the end of the showing one call further away.
theorem Reaches.next {c : ShellCall} {handle : Int} (answered : (e.call .present).1 = .ok ())
    (reaches : Reaches ((e.call .present).2.noted c) calls handles r e') :
    Reaches e (c :: calls) (handle :: handles) (r.map (handle :: ·)) e' := by
  have hafter : e.After [c] ((e.call .present).2.noted c) := by
    have h := e.call_after .present
    refine ⟨h.device, h.fails, ?_⟩
    show (e.call .present).2.journal.calls ++ [c] = _
    rw [h.calls, List.append_nil]
  cases reaches with
  | whole answers after' =>
    refine .whole ?_ (hafter.trans after')
    exact (Session.answers_call (Session.answers_of_call answered) calls.length).1 answers
  | cut fails short after' =>
    refine .cut (Session.faults_of_call answered fails) ?_ ?_
    · exact Nat.succ_lt_succ short
    · exact hafter.trans after'

theorem Reaches.stopped {f : Failure} {c : ShellCall} (fails : e.faults .present = some ⟨0, f⟩)
    (after : e.After [] e') : Reaches e (c :: calls) handles (.error f) e' :=
  .cut fails (Nat.zero_lt_succ _) after

theorem presentTo_stopped {p : Profile} {f : Failure} (hp : address.topic.audience.admits p)
    (rest : List Profile) (s : σ) (hcall : (e.call .present).1 = .error f) :
    presentTo address alert o (p :: rest) (s, e) = (.error f, s, (e.call .present).2) := by
  rw [presentTo, if_pos hp, Op.bind_apply, Op.present, Op.bind_apply, Op.call_apply, hcall]

theorem presentTo_next {p : Profile} (hp : address.topic.audience.admits p) (rest : List Profile)
    (s : σ) (hcall : (e.call .present).1 = .ok ()) :
    let left := presentTo address alert o rest
      (s, (e.call .present).2.noted (.present address (personal alert o p) p.handle))
    presentTo address alert o (p :: rest) (s, e) = (left.1.map (p.handle :: ·), left.2) := by
  rw [presentTo, if_pos hp, Op.bind_apply, Op.present, Op.bind_apply, Op.call_apply, hcall]
  show (presentTo address alert o rest >>= fun handles => pure (p.handle :: handles) : Op σ _)
    (s, (e.call .present).2.noted _) = _
  rw [Op.bind_apply]
  rcases presentTo address alert o rest (s, (e.call .present).2.noted _) with ⟨_ | _, _⟩ <;> rfl

theorem presentTo_skipped {p : Profile} (hp : ¬ address.topic.audience.admits p)
    (rest : List Profile) (s : σ) (e : Session) : presentTo address alert o (p :: rest) (s, e) =
      presentTo address alert o rest (s, e.logged
        ⟨.debug, .delivery, s!"[{address.topic.name}] Skipping user {p.handle}"⟩) := by
  rw [presentTo, if_neg hp, Op.bind_apply]
  rfl

theorem present_unlisted {f : Failure} (s : σ) (hcall : (e.call .profiles).1 = .error f) :
    present address alert o (s, e) = (.error f, s, (e.call .profiles).2) := by
  rw [present, Op.bind_apply, Op.profiles, Op.bind_apply, Op.call_apply, hcall]

theorem present_listed (s : σ) (hcall : (e.call .profiles).1 = .ok ()) :
    present address alert o (s, e) =
      presentTo address { alert with address } o e.device.profiles (s, (e.call .profiles).2) := by
  rw [present, Op.bind_apply, Op.profiles, Op.bind_apply, Op.call_apply, hcall]
  show presentTo address _ o (e.call .profiles).2.device.profiles _ = _
  rw [(e.call_after .profiles).device]

theorem presentTo_reaches (address : Address) (alert : Alert) (o : Bool) (ps : List Profile)
    (s : σ) (e : Session) :
    (presentTo address alert o ps : Op σ (List Int)).Ends s e fun r s' e' => s' = s ∧
      Reaches e (told address alert o ps)
        ((ps.filter address.topic.audience.admits).map (·.handle)) r e' := by
  unfold Op.Ends at *
  induction ps generalizing e with
  | nil => exact ⟨rfl, .whole (fun _ _ => Nat.zero_le _) (.refl e)⟩
  | cons p rest ih =>
    by_cases hp : address.topic.audience.admits p
    · have htold : told address alert o (p :: rest) =
          .present address (personal alert o p) p.handle :: told address alert o rest := by
        simp [told, hp]
      rw [htold, List.filter_cons_of_pos hp, List.map_cons]
      cases hcall : (e.call .present).1 with
      | error f =>
        rw [presentTo_stopped hp rest s hcall]
        exact ⟨rfl, .stopped (Session.faults_of_error hcall) (e.call_after .present)⟩
      | ok _ =>
        have hleft :=
          ih ((e.call .present).2.noted (.present address (personal alert o p) p.handle))
        rw [presentTo_next hp rest s hcall]
        exact ⟨hleft.1, hleft.2.next hcall⟩
    · have htold : told address alert o (p :: rest) = told address alert o rest := by
        simp [told, hp]
      rw [presentTo_skipped hp, htold, List.filter_cons_of_neg hp]
      generalize (⟨.debug, .delivery, _⟩ : LogRow) = row
      have hlogged : e.After [] (e.logged row) := ⟨rfl, id, (List.append_nil _).symm⟩
      have hfaults : (e.logged row).faults .present = e.faults .present := rfl
      have hrest := ih (e.logged row)
      exact ⟨hrest.1, hrest.2.then hfaults hlogged⟩

/-- A showing fails before its first call, or it goes as far as the host lets it. -/
theorem present_reaches (address : Address) (alert : Alert) (o : Bool) (s : σ) (e : Session) :
    (present address alert o : Op σ (List Int)).Ends s e fun r s' e' => s' = s ∧
      ((∃ f, e.faults .profiles = some ⟨0, f⟩ ∧ r = .error f ∧ e.After [] e') ∨
        e.Answers .profiles 1 ∧
          Reaches e (toldOn e.device address alert o) (users e.device address) r e') := by
  have hlisted := e.call_after .profiles
  have hfaults : (e.call .profiles).2.faults .present = e.faults .present :=
    Session.faults_call_of_ne (by decide)
  unfold Op.Ends
  cases hcall : (e.call .profiles).1 with
  | error f =>
    rw [present_unlisted s hcall]
    exact ⟨rfl, .inl ⟨f, Session.faults_of_error hcall, rfl, hlisted⟩⟩
  | ok _ =>
    have hreaches := presentTo_reaches address { alert with address } o e.device.profiles s
      (e.call .profiles).2
    rw [present_listed s hcall]
    exact ⟨hreaches.1, .inr ⟨Session.answers_of_call hcall, hreaches.2.then hfaults hlisted⟩⟩

/-- A showing leaves the sink and all failures but its own as they are. -/
structure Keeps (e e' : Session) : Prop where
  sink : e'.sink = e.sink
  faults : ∀ m, m ≠ .present → m ≠ .profiles → e'.faults m = e.faults m

theorem Keeps.trans (keeps : Keeps e e') (keeps' : Keeps e' e'') : Keeps e e'' where
  sink := keeps'.sink.trans keeps.sink
  faults m hp hl := (keeps'.faults m hp hl).trans (keeps.faults m hp hl)

theorem Reaches.of_answers (answers : e.Answers .present calls.length)
    (reaches : Reaches e calls handles r e') : r = .ok handles ∧ e.After calls e' := by
  cases reaches with
  | whole _ after => exact ⟨rfl, after⟩
  | cut fails short _ => exact absurd answers (Session.not_answers fails short)

theorem Reaches.of_fails {k : Nat} {f : Failure} (fails : e.faults .present = some ⟨k, f⟩)
    (short : k < calls.length) (reaches : Reaches e calls handles r e') :
    r = .error f ∧ e.After (calls.take k) e' := by
  cases reaches with
  | whole answers _ => exact absurd answers (Session.not_answers fails short)
  | cut fails' _ after =>
    rw [fails] at fails'
    cases fails'
    exact ⟨rfl, after⟩

/-- The copy of an alert that a profile gets at an address. -/
def copyFor (address : Address) (alert : Alert) (ownerOnlyAction : Bool) (p : Profile) : Alert :=
  { alert with
    address
    contentAction := if ownerOnlyAction && !p.isOwner then none else alert.contentAction }

theorem personal_eq_copyFor (address : Address) (alert : Alert) (o : Bool) (p : Profile) :
    personal { alert with address } o p = copyFor address alert o p := by
  unfold personal copyFor
  cases o && !p.isOwner <;> rfl

theorem toldOn_eq (d : Device) (address : Address) (alert : Alert) (o : Bool) :
    toldOn d address alert o = (d.profiles.filter address.topic.audience.admits).map fun p =>
      .present address (copyFor address alert o p) p.handle := by
  simp only [toldOn, told, personal_eq_copyFor]

-- What an operation that starts in a blank journal reports are the calls that it made.
theorem calls_of_blank {calls : List ShellCall} (after : e.blank.After calls e') :
    e'.journal.calls = calls := after.calls

theorem reported_unlisted {f : Failure} (fails : e.faults .profiles = some ⟨0, f⟩) :
    let shown := (present address alert o).report (s, e)
    shown.1.result = .error f ∧ shown.1.journal.calls = [] := by
  rcases (present_reaches address alert o s e.blank).2 with
    ⟨f', fails', hresult, after⟩ | ⟨answers, -⟩
  · have hsame : some (Fault.mk 0 f') = some ⟨0, f⟩ := fails'.symm.trans fails
    cases hsame
    exact ⟨hresult, calls_of_blank after⟩
  · exact absurd answers (Session.not_answers fails Nat.one_pos)

theorem reported_reaches (address : Address) (alert : Alert) (o : Bool) (s : σ)
    (lists : e.Answers .profiles 1) :
    let shown := (present address alert o).report (s, e)
    Reaches e.blank (toldOn e.device address alert o) (users e.device address) shown.1.result
      shown.2.2 := by
  rcases (present_reaches address alert o s e.blank).2 with ⟨f, fails, -, -⟩ | ⟨-, reaches⟩
  · exact absurd lists (Session.not_answers fails Nat.one_pos)
  · exact reaches

/-- What is called where a device has the given profiles. -/
def madeFor (address : Address) (alert : Alert) (o : Bool) (s : σ) (e : Session)
    (ps : List Profile) : List ShellCall :=
  ((present address alert o).report (s, e.apply (.device (.profiles ps)))).1.journal.calls

theorem madeFor_eq {ps : List Profile} (lists : e.Answers .profiles 1)
    (answers : e.Answers .present (ps.countP address.topic.audience.admits)) :
    madeFor address alert o s e ps = told address { alert with address } o ps := by
  have hcount : (told address { alert with address } o ps).length =
      ps.countP address.topic.audience.admits := by
    rw [told, List.length_map, List.countP_eq_length_filter]
  have hlists : (e.apply (.device (.profiles ps))).Answers .profiles 1 := lists
  have hreaches := reported_reaches address alert o s hlists
  exact calls_of_blank (hreaches.of_answers (hcount ▸ answers)).2

theorem madeFor_append (ps qs : List Profile) (lists : e.Answers .profiles 1)
    (answers : e.Answers .present ((ps ++ qs).countP address.topic.audience.admits)) :
    madeFor address alert o s e (ps ++ qs) =
      madeFor address alert o s e ps ++ madeFor address alert o s e qs := by
  have hleft := answers.mono ((List.sublist_append_left ps qs).countP_le)
  have hright := answers.mono ((List.sublist_append_right ps qs).countP_le)
  rw [madeFor_eq lists answers, madeFor_eq lists hleft, madeFor_eq lists hright, told, told, told,
    List.filter_append, List.map_append]

theorem madeFor_flatMap {ps : List Profile} (lists : e.Answers .profiles 1)
    (answers : e.Answers .present (ps.countP address.topic.audience.admits)) :
    madeFor address alert o s e ps = ps.flatMap fun p => madeFor address alert o s e [p] := by
  induction ps with
  | nil => exact madeFor_eq lists answers
  | cons p rest ih =>
    have hrest := answers.mono ((List.sublist_cons_self p rest).countP_le)
    rw [List.flatMap_cons, ← ih hrest]
    exact madeFor_append [p] rest lists answers

/-- A showing calls the host for every profile of its audience, in their order, and answers with
their handles; where the host fails, the calls before that are made.  What it calls for a profile
depends on the profile alone. -/
theorem present_in_order (address : Address) (alert : Alert) (o : Bool) (s : σ) (e : Session) :
    let admits := address.topic.audience.admits
    let listed := e.device.profiles.filter admits
    let calls := listed.map fun p =>
      ShellCall.present address (copyFor address alert o p) p.handle
    let shown := (present address alert o).report (s, e)
    let made := madeFor address alert o s e
    shown.2.1 = s ∧
    (∀ f, e.faults .profiles = some ⟨0, f⟩ →
      shown.1.result = .error f ∧ shown.1.journal.calls = []) ∧
    (e.Answers .profiles 1 →
      (∀ k f, e.faults .present = some ⟨k, f⟩ → k < calls.length →
        shown.1.result = .error f ∧ shown.1.journal.calls = calls.take k) ∧
      (e.Answers .present calls.length →
        shown.1.result = .ok (listed.map (·.handle)) ∧ shown.1.journal.calls = calls) ∧
      (∀ ps qs, e.Answers .present ((ps ++ qs).countP admits) →
        made (ps ++ qs) = made ps ++ made qs) ∧
      ∀ ps, e.Answers .present (ps.countP admits) → made ps = ps.flatMap fun p => made [p]) := by
  intro admits listed calls shown made
  have hcalls : toldOn e.device address alert o = calls := toldOn_eq e.device address alert o
  have hreaches (lists : e.Answers .profiles 1) :
      Reaches e.blank calls (listed.map (·.handle)) shown.1.result shown.2.2 := by
    rw [← hcalls]
    exact reported_reaches address alert o s lists
  refine ⟨(present_reaches address alert o s e.blank).1, fun f => reported_unlisted,
    fun lists => ⟨fun k f fails short => ?_, fun answers => ?_,
      fun ps qs => madeFor_append ps qs lists, fun ps => madeFor_flatMap lists⟩⟩
  · have hcut := Reaches.of_fails (e := e.blank) fails short (hreaches lists)
    exact ⟨hcut.1, calls_of_blank hcut.2⟩
  · have hwhole := Reaches.of_answers (e := e.blank) answers (hreaches lists)
    exact ⟨hwhole.1, calls_of_blank hwhole.2⟩

/-- A crowded device at which one method may fail. -/
def crowded (m : Method) (fault : Option Fault) : Session where
  device := { Desk.twoUsers with profiles := Desk.crowd }
  faults := fun m' => if m' = m then fault else none

/-- An alert that only the owner may follow up. -/
def ownersAlert : Alert where
  address := { topic := .mmi }
  title := "Call forwarding"
  body := "Always forward"
  contentAction := some { kind := .callForwardSettings, line := some 5 }

theorem present_in_order_crowded :
    let a : Address := ⟨.callForward, some 5⟩
    let copy (owner : Bool) : Alert :=
      { ownersAlert with
        address := a
        contentAction := if owner then ownersAlert.contentAction else none }
    let shown (e : Session) := ((present a ownersAlert true).report ((), e)).1
    let broken := crowded .present (some ⟨2, .collaborator .present⟩)
    let unlisted := crowded .profiles (some ⟨0, .collaborator .profiles⟩)
    let sound := crowded .present none
    (shown broken).result = .error (.collaborator .present) ∧
      (shown broken).journal.calls = [.present a (copy true) 1, .present a (copy false) 10] ∧
      (shown unlisted).result = .error (.collaborator .profiles) ∧
      (shown unlisted).journal.calls = [] ∧
      (shown sound).result = .ok [1, 10, 10, 12] ∧
      (shown sound).journal.calls = [.present a (copy true) 1, .present a (copy false) 10,
        .present a (copy false) 10, .present a (copy false) 12] ∧
      madeFor a ownersAlert true () sound (Desk.crowd ++ Desk.twoUsers.profiles) =
        madeFor a ownersAlert true () sound Desk.crowd ++
          madeFor a ownersAlert true () sound Desk.twoUsers.profiles := by
  intro a copy shown broken unlisted sound
  have hbroken := (present_in_order a ownersAlert true () broken).2.2 nofun
  have hunlisted := (present_in_order a ownersAlert true () unlisted).2.1
  have hsound := (present_in_order a ownersAlert true () sound).2.2 nofun
  have hcut := hbroken.1 2 (.collaborator .present) rfl (by decide)
  have hnone := hunlisted (.collaborator .profiles) rfl
  have hwhole := hsound.2.1 nofun
  have happend := hsound.2.2.1 Desk.crowd Desk.twoUsers.profiles nofun
  have hhandles : (Desk.crowd.filter a.topic.audience.admits).map (·.handle) = [1, 10, 10, 12] := by
    decide
  exact ⟨hcut.1, hcut.2.trans (by decide), hnone.1, hnone.2,
    hwhole.1.trans (congrArg Except.ok hhandles), hwhole.2.trans (by decide), happend⟩

end Delivery

end TelephonyAlerts
