import TelephonyAlerts.Proofs.Coupling
import TelephonyAlerts.Proofs.Run

/-!
# Addresses and keys

The host can tell any two alerts apart by the number of their topic and their tag, and the
preferences of any two lines by their keys.  Of all preferences an update of the operator's alert
reads the two of the default line and no other, so whatever else is stored, it does the same.
-/

namespace TelephonyAlerts

open TelephonyAlerts.Data TelephonyAlerts.Number

/-! ## 1. Addresses and keys -/

-- A number is read back from its digits.
theorem natRepr_injective : Function.Injective Nat.repr := by
  intro m n h
  rw [Nat.repr_eq_ofList_toDigits, Nat.repr_eq_ofList_toDigits] at h
  rw [← Nat.ofDigitChars_ten_toDigits (n := m), String.ofList_injective h,
    Nat.ofDigitChars_ten_toDigits]

theorem repr_ne_minus (m n : Nat) : m.repr ≠ "-" ++ n.repr := by
  intro h
  have hminus : '-' ∈ Nat.toDigits 10 m := by
    rw [← String.toList_ofList (l := Nat.toDigits 10 m), ← Nat.repr_eq_ofList_toDigits, h]
    simp
  exact absurd (Nat.isDigit_of_mem_toDigits (by decide) (by decide) hminus) (by decide)

theorem toString_injective : Function.Injective (toString : Int → String) := by
  intro a b h
  rw [Int.toString_eq_repr, Int.toString_eq_repr, Int.repr_eq_if, Int.repr_eq_if] at h
  by_cases ha : 0 ≤ a
  · by_cases hb : 0 ≤ b
    · rw [if_pos ha, if_pos hb] at h
      have hsame := natRepr_injective h
      omega
    · rw [if_pos ha, if_neg hb] at h
      exact absurd h (repr_ne_minus _ _)
  · by_cases hb : 0 ≤ b
    · rw [if_neg ha, if_pos hb] at h
      exact absurd h.symm (repr_ne_minus _ _)
    · rw [if_neg ha, if_neg hb] at h
      have hsame := natRepr_injective ((String.append_right_inj _).1 h)
      omega

/-- What has a key is told apart by it. -/
def Apart {α κ : Type} (key : α → Except TooManyDigits κ) : Prop :=
  ∀ a b k, key a = .ok k → key b = .ok k → a = b

theorem isOk_written (n : Int) : (written n).isOk = isWritable n := by
  unfold written
  cases isWritable n <;> rfl

theorem written_apart : Apart written := by
  intro a b s ha hb
  exact toString_injective ((written_eq_ok.1 ha).2.trans (written_eq_ok.1 hb).2.symm)

theorem Apart.map {α κ κ' : Type} {key : α → Except TooManyDigits κ} (apart : Apart key)
    {f : κ → κ'} (hf : Function.Injective f) : Apart fun a => (key a).map f := by
  intro a b k ha hb
  obtain ⟨k₁, ha, hk₁⟩ := map_eq_ok.1 ha
  obtain ⟨k₂, hb, hk₂⟩ := map_eq_ok.1 hb
  obtain rfl : k₁ = k₂ := hf (hk₁.trans hk₂.symm)
  exact apart a b k₁ ha hb

namespace Address

/-- What the host tells the alerts of one user apart by. -/
def shellKey (a : Address) : Except TooManyDigits (Nat × Option String) :=
  a.tag.map (a.topic.id, ·)

theorem tag_of_line {t : Topic} (line : Int) : tag ⟨t, some line⟩ = (written line).map some :=
  rfl

theorem tag_apart {t t' : Topic} {line line' : Option Int} {tag : Option String}
    (h : Address.tag ⟨t, line⟩ = .ok tag) (h' : Address.tag ⟨t', line'⟩ = .ok tag) :
    line = line' := by
  cases line with
  | none =>
    obtain rfl : none = tag := Except.ok.inj h
    cases line' with
    | none => rfl
    | some n' =>
      rw [tag_of_line, map_eq_ok] at h'
      obtain ⟨_, -, hsome⟩ := h'
      cases hsome
  | some n =>
    rw [tag_of_line, map_eq_ok] at h
    obtain ⟨text, hn, rfl⟩ := h
    cases line' with
    | none => cases h'
    | some n' =>
      rw [tag_of_line, map_eq_ok] at h'
      obtain ⟨text', hn', hsome⟩ := h'
      obtain rfl := Option.some.inj hsome
      rw [written_apart n n' text' hn hn']

theorem shellKey_apart : Apart shellKey := by
  intro a b k ha hb
  obtain ⟨tag, ha, hk⟩ := map_eq_ok.1 ha
  obtain ⟨tag', hb, hk'⟩ := map_eq_ok.1 hb
  obtain ⟨htopic, rfl⟩ := Prod.mk.inj (hk.trans hk'.symm)
  obtain ⟨topic, line⟩ := a
  obtain rfl : topic = b.topic := Topic.id_injective htopic
  obtain rfl : line = b.line := tag_apart ha hb
  rfl

theorem isOk_shellKey (a : Address) : a.shellKey.isOk = a.line.all isWritable := by
  obtain ⟨topic, line⟩ := a
  rw [shellKey, isOk_map]
  cases line with
  | none => rfl
  | some n => rw [tag_of_line, isOk_map, isOk_written, Option.all_some]

end Address

namespace Device

theorem operatorNameKey_apart : Apart operatorNameKey :=
  written_apart.map fun _ _ => (String.append_right_inj _).1

theorem operatorNumberKey_apart : Apart operatorNumberKey :=
  written_apart.map fun _ _ => (String.append_right_inj _).1

theorem operatorNumberKey_ne {line other : Int} {key : String}
    (hname : operatorNameKey line = .ok key) : operatorNumberKey other ≠ .ok key := by
  intro hnumber
  obtain ⟨text, -, hkey⟩ := map_eq_ok.1 hname
  obtain ⟨text', -, hkey'⟩ := map_eq_ok.1 hnumber
  have hname : "network_selection_name_key".toList <+: key.toList :=
    ⟨text.toList, hkey ▸ String.toList_append.symm⟩
  have hnumber : "network_selection_key".toList <+: key.toList :=
    ⟨text'.toList, hkey' ▸ String.toList_append.symm⟩
  -- neither of the two words that a key begins with begins the other
  rcases List.prefix_or_prefix_of_prefix hname hnumber with hword | hword
  · exact absurd hword (by decide)
  · exact absurd hword (by decide)

/-- The keys of the preferences that tell the operator chosen for a line. -/
def operatorKeys (line : Int) : List String :=
  [operatorNameKey line, operatorNumberKey line].filterMap (·.toOption)

theorem mem_operatorKeys {line : Int} {key : String} : key ∈ operatorKeys line ↔
    operatorNameKey line = .ok key ∨ operatorNumberKey line = .ok key := by
  simp [operatorKeys, List.mem_filterMap, toOption_eq_some, @eq_comm _ (Except.ok key)]

theorem not_mem_operatorKeys {line other : Int} (h : line ≠ other) {key : String}
    (hkey : key ∈ operatorKeys line) : key ∉ operatorKeys other := by
  rw [mem_operatorKeys] at hkey ⊢
  rintro (hname | hnumber)
  · rcases hkey with hkey | hkey
    · exact h (operatorNameKey_apart _ _ _ hkey hname)
    · exact operatorNumberKey_ne hname hkey
  · rcases hkey with hkey | hkey
    · exact operatorNumberKey_ne hkey hnumber
    · exact h (operatorNumberKey_apart _ _ _ hkey hnumber)

/-! ## 2. Other preferences -/

/-- The device with other stored preferences. -/
def storing (d : Device) (store : Assoc String String) : Device := { d with preferences := store }

/-- A store in which the preferences under some keys are those of a device. -/
def Agrees (d : Device) (keys : List String) (store : Assoc String String) : Prop :=
  ∀ key ∈ keys, (d.storing store).preference key = d.preference key

/-- A change of the preference under a key, and of nothing else. -/
inductive Change.Stores (key : String) : Change → Prop
  | set (value : String) : Stores key (.preference key value)
  | drop : Stores key (.noPreference key)

/-- The store that a change of a preference leaves. -/
def Change.left (store : Assoc String String) : Change → Assoc String String
  | .preference key value => store.insert key value
  | .noPreference key => store.erase key
  | _ => store

theorem Change.Stores.apply {key : String} {change : Change} (h : change.Stores key) (d : Device) :
    d.apply change = d.storing (change.left d.preferences) := by
  cases h <;> rfl

theorem Change.Stores.agrees {key : String} {change : Change} (h : change.Stores key) (d : Device)
    {keys : List String} (elsewhere : key ∉ keys) :
    d.Agrees keys (change.left d.preferences) := by
  intro other hother
  have hne : key ≠ other := fun heq => elsewhere (heq ▸ hother)
  cases h with
  | set value =>
    show (Assoc.get? (Assoc.insert d.preferences key value) other).getD "" = _
    rw [Assoc.get?_insert, if_neg hne]
    rfl
  | drop =>
    show (Assoc.get? (Assoc.erase d.preferences key) other).getD "" = _
    rw [Assoc.get?_erase, if_neg hne]
    rfl

end Device

namespace Session

/-- The session at a device with other stored preferences. -/
def storing (e : Session) (store : Assoc String String) : Session :=
  { e with device := e.device.storing store }

theorem storing_aside (store : Assoc String String) : Aside (storing · store) where
  faults _ := rfl
  draws _ := rfl
  sink _ := rfl
  now _ := rfl
  withFaults _ _ := rfl
  withDraws _ _ := rfl
  withSink _ _ := rfl
  withRecord _ _ := rfl

end Session

/-- Sessions of which the second is the first with other stored preferences, the same under some
keys. -/
def Coupling.storing (keys : List String) (store : Assoc String String) : Coupling where
  session e₁ e₂ := e₂ = e₁.storing store ∧ e₁.device.Agrees keys store
  failure _ := True

/-! ## 3. Updates -/

variable {σ α : Type} {O : σ → σ → Prop} {keys : List String} {store : Assoc String String}

namespace Op

-- What leaves the device as it is, and reads nothing of the preferences.
theorem Coupled.storing {op : Op σ α} (act : Session → Except Failure α × Session)
    (hop : ∀ s e, op (s, e) = ((act e).1, s, (act e).2))
    (hact : ∀ e, act (e.storing store) = ((act e).1, (act e).2.storing store))
    (hdevice : ∀ e, (act e).2.device = e.device) : Coupled (.storing keys store) O op op := by
  rintro s₁ s₂ e _ hs ⟨rfl, agrees⟩
  rw [hop, hop, hact]
  have hkept : (act e).2.device.Agrees keys store := by
    rw [hdevice]
    exact agrees
  exact ⟨rfl, hs, ⟨rfl, hkept⟩, fun _ _ => trivial⟩

end Op

theorem Coupling.storing_steady : (Coupling.storing keys store).Steady where
  log level source text := .storing (fun e => (.ok (), e.logged ⟨level, source, text⟩))
    (fun _ _ => rfl) (fun _ => rfl) fun _ => rfl
  note c := .storing (fun e => (.ok (), e.noted c)) (fun _ _ => rfl) (fun _ => rfl) fun _ => rfl
  call {_ _ m} _ := .storing (·.call m) (fun _ _ => Op.call_apply _ _)
    (fun e => (Session.storing_aside store).call e m) fun e => (e.call_after m).device

theorem Op.preference_storing {key : Except TooManyDigits String}
    (hkey : ∀ k, key = .ok k → k ∈ keys) :
    Coupled (.storing keys store) O (preference key : Op σ String) (preference key) := by
  cases key with
  | error cause => exact fun s₁ s₂ e₁ e₂ hs he => ⟨rfl, hs, he, fun _ _ => trivial⟩
  | ok key =>
    show Coupled (.storing keys store) O
      (call .preference >>= fun _ => device >>= fun d => pure (d.preference key)) _
    refine .bind (Coupling.storing_steady.call (by decide)) fun _ => ?_
    rintro s₁ s₂ e _ hs ⟨rfl, agrees⟩
    exact ⟨congrArg Except.ok (agrees key (hkey key rfl)).symm, hs, ⟨rfl, agrees⟩,
      fun _ _ => trivial⟩

theorem Op.record_storing (sampling : Sampling) (d : Decision) :
    Coupled (.storing keys store) O (record sampling d : Op σ Unit) (record sampling d) :=
  .storing (·.record sampling d) (fun _ _ => Op.record_apply _ _ _)
    (fun e => (Session.storing_aside store).record e sampling d)
    fun e => (e.record_after sampling d).device

theorem Delivery.present_storing (address : Address) (alert : Alert) (o : Bool) :
    Op.Coupled (.storing keys store) O (present address alert o : Op σ (List Int))
      (present address alert o) := by
  have hprofiles : Op.Coupled (.storing keys store) O
      (Op.profiles : Op σ (List Profile)) Op.profiles :=
    .bind (Coupling.storing_steady.call (by decide)) fun _ =>
      .storing (fun e => (.ok e.device.profiles, e)) (fun _ _ => rfl) (fun _ => rfl) fun _ => rfl
  exact .bind hprofiles fun ps => presentTo_coupled Coupling.storing_steady _ _ _ ps

namespace Operator

variable (c : Context)

theorem raise_storing (line : Int) (operator : String) :
    Op.Coupled (.storing keys store) Eq (raise c line operator) (raise c line operator) :=
  .bind (.ofExcept fun _ _ => trivial) fun a => .bind (Delivery.present_storing _ a true) fun _ =>
    .bind (.modifyOwn _) fun _ => Op.record_storing _ _

theorem lower_storing (line : Int) :
    Op.Coupled (.storing keys store) Eq (lower c line) (lower c line) :=
  .bind (Delivery.cancel_coupled Coupling.storing_steady _) fun _ =>
    .bind (.modifyOwn _) fun _ => Op.record_storing _ _

theorem chosen_storing (line : Int) :
    Op.Coupled (.storing (Device.operatorKeys line) store) O
      (Device.chosenOperator Op.preference line : Op σ String)
      (Device.chosenOperator Op.preference line) := by
  have named (key : String) (h : Device.operatorNameKey line = .ok key) :=
    Device.mem_operatorKeys.2 (Or.inl h)
  have numbered (key : String) (h : Device.operatorNumberKey line = .ok key) :=
    Device.mem_operatorKeys.2 (Or.inr h)
  refine .bind (Op.preference_storing named) fun name => ?_
  split
  · exact Op.preference_storing numbered
  · exact .pure _

-- The device is read once, and of what is read there only the operator depends on preferences.
theorem update_storing (service : Service) (shown : Bool) {e : Session}
    (agrees : e.device.Agrees (Device.operatorKeys e.device.defaultLine) store) :
    Op.Meet (.storing (Device.operatorKeys e.device.defaultLine) store) Eq
      (update c service (shown, e)) (update c service (shown, e.storing store)) := by
  have steady : (Coupling.storing (Device.operatorKeys e.device.defaultLine) store).Steady :=
    Coupling.storing_steady
  have alike {k : Device → Op Bool Unit} (same : k (e.device.storing store) = k e.device)
      (h : Op.Coupled (.storing (Device.operatorKeys e.device.defaultLine) store) Eq (k e.device)
        (k e.device)) :
      Op.Meet (.storing (Device.operatorKeys e.device.defaultLine) store) Eq
        ((Op.device >>= k) (shown, e)) ((Op.device >>= k) (shown, e.storing store)) := by
    have hsecond : (Op.device >>= k) (shown, e.storing store) =
        k e.device (shown, e.storing store) := by
      rw [← same]
      rfl
    rw [hsecond]
    exact h shown shown e (e.storing store) rfl ⟨rfl, agrees⟩
  refine alike rfl ?_
  split
  · dsimp only
    split
    · exact steady.log _ _ _
    · refine .bind (chosen_storing _) fun operator => .bind (steady.log _ _ _) fun _ => ?_
      refine .bind .own fun shown => ?_
      split
      · split
        · exact raise_storing c _ operator
        · exact .pure _
      · split
        · exact lower_storing c _
        · exact .pure _
  · exact .pure _

-- The same with all that an update answers and leaves.
theorem update_storing_eq (service : Service) (shown : Bool) {e : Session}
    (agrees : e.device.Agrees (Device.operatorKeys e.device.defaultLine) store) :
    let plain := update c service (shown, e)
    update c service (shown, e.storing store) =
      (plain.1, plain.2.1, plain.2.2.storing store) := by
  obtain ⟨result, own, ⟨session, -⟩, -⟩ := update_storing c service shown agrees
  exact Prod.ext result.symm (Prod.ext own.symm session)

theorem updateService_apply (service : Service) (d : Desk) (e : Session) :
    Desk.perform (.updateService service) (d, e) =
      let plain := update d.context service (d.operatorShown, e)
      (plain.1, { d with operatorShown := plain.2.1 }, plain.2.2) := rfl

theorem update_device (service : Service) (shown : Bool) (e : Session) :
    (update c service (shown, e)).2.2.device = e.device := by
  have ends : (update c service).Ends shown e fun _ _ e' => e'.device = e.device :=
    (update_ends service).mono fun _ _ _ h => h.choose_spec.1.device
  exact ends

/-- A change of a session that updates overlook: they report the same, leave the same latch, and
leave the session as they leave it without the change, changed. -/
structure Overlooked (e : Session) (f : Session → Session) : Prop where
  update : ∀ c service shown,
    let plain := (update c service).report (shown, e)
    (update c service).report (shown, f e) = (plain.1, plain.2.1, f plain.2.2)
  request : ∀ d service,
    let plain := (Desk.perform (.updateService service)).report (d, e)
    (Desk.perform (.updateService service)).report (d, f e) = (plain.1, plain.2.1, f plain.2.2)

variable {e : Session}

theorem overlooked_storing
    (agrees : e.device.Agrees (Device.operatorKeys e.device.defaultLine) store) :
    Overlooked e (·.storing store) := by
  have hblank : (e.storing store).blank = e.blank.storing store := rfl
  have hupdate (c : Context) (service : Service) (shown : Bool) :=
    update_storing_eq c service shown (e := e.blank) agrees
  constructor
  · intro c service shown plain
    rw [Op.report_apply, hblank, hupdate]
    rfl
  · intro d service plain
    rw [Op.report_apply, hblank, updateService_apply, hupdate]
    rfl

-- It is enough to know a change on sessions at the same device.
theorem Overlooked.congr {f g : Session → Session} (overlooked : Overlooked e f)
    (same : ∀ e', e'.device = e.device → f e' = g e') : Overlooked e g where
  update c service shown := by
    intro plain
    have hdevice : plain.2.2.device = e.device := update_device c service shown e.blank
    rw [← same e rfl, ← same plain.2.2 hdevice]
    exact overlooked.update c service shown
  request d service := by
    intro plain
    have hdevice : plain.2.2.device = e.device :=
      update_device d.context service d.operatorShown e.blank
    rw [← same e rfl, ← same plain.2.2 hdevice]
    exact overlooked.request d service

theorem overlooked_stores {key : String} {change : Device.Change} (stores : change.Stores key)
    (elsewhere : key ∉ Device.operatorKeys e.device.defaultLine) :
    Overlooked e (·.apply (.device change)) := by
  refine (overlooked_storing (stores.agrees e.device elsewhere)).congr fun e' hdevice => ?_
  show { e' with device := e'.device.storing _ } = { e' with device := e'.device.apply change }
  rw [stores.apply e'.device, hdevice]

end Operator

/-- No two addresses have the same number and tag.  No two lines have a key of their preferences in
common, and no key for the name of an operator is one for its number; it is the lines whose number
can be written that have keys and tags.  So what is stored under any key but the two of the default
line, and what is stored for any other line, makes no difference to an update of the alert about
the operator. -/
theorem addresses_distinct :
    (Apart Address.shellKey ∧ ∀ a : Address, a.shellKey.isOk = a.line.all isWritable) ∧
    (Apart Device.operatorNameKey ∧ Apart Device.operatorNumberKey ∧
      (∀ line other key, Device.operatorNameKey line = .ok key →
        Device.operatorNumberKey other ≠ .ok key) ∧
      ∀ line, (Device.operatorNameKey line).isOk = isWritable line ∧
        (Device.operatorNumberKey line).isOk = isWritable line) ∧
    ∀ e : Session,
      (∀ store, e.device.Agrees (Device.operatorKeys e.device.defaultLine) store →
        Operator.Overlooked e (·.storing store)) ∧
      (∀ key (change : Device.Change), change.Stores key →
        key ∉ Device.operatorKeys e.device.defaultLine →
          Operator.Overlooked e (·.apply (.device change))) ∧
      ∀ line key (change : Device.Change), line ≠ e.device.defaultLine →
        key ∈ Device.operatorKeys line → change.Stores key →
          Operator.Overlooked e (·.apply (.device change)) := by
  refine ⟨⟨Address.shellKey_apart, Address.isOk_shellKey⟩, ⟨Device.operatorNameKey_apart,
    Device.operatorNumberKey_apart, fun _ _ _ => Device.operatorNumberKey_ne, fun line => ?_⟩,
    fun e => ⟨fun _ => Operator.overlooked_storing, fun _ _ => Operator.overlooked_stores, ?_⟩⟩
  · rw [Device.operatorNameKey, Device.operatorNumberKey, isOk_map, isOk_map, isOk_written]
    exact ⟨rfl, rfl⟩
  · intro line key change other hkey stores
    exact Operator.overlooked_stores stores (Device.not_mem_operatorKeys other hkey)

/-- Line 55 has a key that goes on where one of line 5 ends, and a key may lack its line. -/
theorem addresses_distinct_adjacent :
    let e : Session := { device := Desk.twoUsers }
    let update (e : Session) := (Desk.perform (.updateService .outOfService)).report (Desk.fresh, e)
    let store : Assoc String String :=
      [("ringtone", "Bells"), ("network_selection_name_key5", "Operator X")]
    let keyless : Device.Change := .preference "network_selection_name_key" "Operator Y"
    let other : Device.Change := .preference "network_selection_name_key55" "Operator Y"
    Address.shellKey ⟨.voicemail, some (-1)⟩ = .ok (Topic.voicemail.id, some "-1") ∧
      Address.shellKey ⟨.voicemail, none⟩ ≠ .ok (Topic.voicemail.id, some "-1") ∧
      (update e).1.journal.calls.length = 2 ∧
      e.device.Agrees (Device.operatorKeys 5) store ∧ (update (e.storing store)).1 = (update e).1 ∧
      (update (e.apply (.device keyless))).1 = (update e).1 ∧
      (update (e.apply (.device other))).1 = (update e).1 := by
  intro e update store keyless other
  obtain ⟨⟨apart, -⟩, -, overlooked⟩ := addresses_distinct
  obtain ⟨stored, changed, elsewhere⟩ := overlooked e
  have agrees : e.device.Agrees (Device.operatorKeys 5) store := by
    unfold Device.Agrees
    decide +kernel
  have foreign : "network_selection_name_key" ∉ Device.operatorKeys 5 := by decide +kernel
  have adjacent : "network_selection_name_key55" ∈ Device.operatorKeys 55 := by decide +kernel
  have same {f : Session → Session} (h : Operator.Overlooked e f) :
      (update (f e)).1 = (update e).1 :=
    (Prod.ext_iff.1 (h.request Desk.fresh .outOfService)).1
  have tagged : Address.shellKey ⟨.voicemail, some (-1)⟩ = .ok (Topic.voicemail.id, some "-1") :=
    toOption_eq_some.1 (by decide +kernel)
  exact ⟨tagged, fun untagged => absurd (apart _ _ _ tagged untagged) (by decide),
    by decide +kernel, agrees, same (stored store agrees),
    same (changed _ keyless (.set _) foreign),
    same (elsewhere 55 _ other (by decide) adjacent (.set _))⟩

end TelephonyAlerts
