import RMX2020.Init.Orderly
import RMX2020.Machine.RunDry

/-!
# Switching to a configuration

What the rules are for: whatever the platform's rules are (`Configfs`), `none` and then a
configuration of the table get the gadget to that configuration, whatever has happened since boot
(`switch_reaches`). Properties may have been set at any time and something wrong may have been
published: left alone, init comes to rest (`Turns.exists_idle`), and the rules for `none` then clear
all that the other rules can have left. Init is also left to run dry after each change, and `adbd`
reports ready at the end; each of the three phases is an invariant of init's turns, read at their
end.

What was published wrong stays behind: from the first `none` on that is set while init is idle,
orderly runs publish nothing but what is right (`published_right_from_none`).
-/

namespace RMX2020.Init

open Machine Trigger

/-! ## Running dry -/

/-- Init, left alone, gets from one state to another. -/
def Turns (platform : List (Action Property GadgetCommand)) (i i' : InitState) : Prop :=
  ∃ n, ∀ noneSet,
    run (step platform) ⟨i, noneSet⟩ (List.replicate n .turn) = .ok ⟨i', noneSet⟩

/-- The port index and the boot mode decide on the configuration, and it on what is published. -/
def rank : Property → Nat
  | .sysUsbState => 0
  | .sysUsbFfsReady => 1
  | .sysUsbConfig => 2
  | .sysUsbConfigfs | .vendorUsbController | .persistVendorRadioPortIndex
  | .roBootmode => 3

section Turns

variable {platform : List (Action Property GadgetCommand)} {i i₁ i' : InitState}

theorem Turns.refl (i : InitState) : Turns platform i i := ⟨0, fun _ => rfl⟩

theorem Turns.head (h : turn exec (table platform) i = .ok i₁) (h' : Turns platform i₁ i') :
    Turns platform i i' := by
  obtain ⟨n, hn⟩ := h'
  refine ⟨n + 1, fun noneSet => ?_⟩
  have hstep : step platform ⟨i, noneSet⟩ .turn = .ok ⟨i₁, noneSet⟩ := by
    simp only [step, h]
    rfl
  rw [List.replicate_succ, run_cons_ok hstep]
  exact hn noneSet

theorem Turns.runDry (n : Nat) (i : InitState) :
    Turns platform i (Trigger.runDry exec (table platform) n i) := by
  induction n generalizing i with
  | zero => exact refl i
  | succ n ih =>
    rw [Trigger.runDry]
    cases hturn : turn exec (table platform) i with
    | error e => exact refl i
    | ok i' => exact head hturn (ih i')

/-- What the rules for a configuration look at ranks higher than what they set. -/
theorem Auxiliary.rank_lt {config : String} {a : Action Property GadgetCommand}
    (h : Auxiliary config a) {n : Property} (hn : n ∈ a.setprops) :
    rank n < 4 ∧ ∀ t ∈ a.triggers, rank n < rank t.1 := by
  obtain ⟨text, hc⟩ := mem_setprops hn
  rcases h.commands _ hc with ⟨rfl, -⟩ | ⟨hnone, rfl, -⟩
  · refine ⟨by decide, fun t ht => ?_⟩
    rcases h.triggers t ht with rfl | rfl | ⟨-, rfl⟩ <;> exact Nat.zero_lt_succ _
  · refine ⟨by decide, fun t ht => ?_⟩
    rcases h.triggers t ht with rfl | rfl | ⟨hne, -⟩
    · exact Nat.lt_succ_self 1
    · exact Nat.lt_of_sub_eq_succ rfl
    · exact absurd hnone hne

theorem ranked_rules : ∀ a ∈ portIndexEmpty :: bootmodeCharger :: rules.map Rule.action,
    ∀ n ∈ a.setprops, rank n < 4 ∧ ∀ t ∈ a.triggers, rank n < rank t.1 := by
  decide

theorem ranked_table (hplatform : Configfs platform) : Ranked rank 4 (table platform) := by
  intro a ha
  rcases table_lined hplatform ha with rfl | rfl | ⟨config, ⟨r, hr, -, rfl⟩ | haux⟩
  · exact ranked_rules _ List.mem_cons_self
  · exact ranked_rules _ (List.mem_cons_of_mem _ List.mem_cons_self)
  · exact ranked_rules _ (List.mem_cons_of_mem _ (List.mem_cons_of_mem _ (List.mem_map_of_mem hr)))
  · exact fun n hn => haux.rank_lt hn

/-- Left alone, init comes to rest, and what its turns keep holds there. -/
theorem Turns.exists_idle (hplatform : Configfs platform) {I : InitState → Prop}
    (hturn : ∀ i i', I i → turn exec (table platform) i = .ok i' → I i') (hi : I i) :
    ∃ i', Turns platform i i' ∧ Idle i' ∧ I i' :=
  ⟨_, .runDry _ i, (ranked_table hplatform).idle_runDry (Nat.le_refl _),
    runDry_keeps hturn hi _⟩

end Turns

/-! ## Any run -/

/-- What any run keeps. -/
structure Running (platform : List (Action Property GadgetCommand)) (i : InitState) : Prop
    extends Booted i where
  actions : ∀ a ∈ i.actions, a ∈ table platform

section Running

variable {platform : List (Action Property GadgetCommand)} {i i' : InitState}
  {a : Action Property GadgetCommand}

theorem Booted.run (hplatform : Configfs platform) (h : Booted i) (ha : a ∈ table platform) :
    Booted (a.run exec i) := by
  rcases table_lined hplatform ha with rfl | rfl | ⟨config, hlined⟩
  · have hset : Booted (i.set .sysUsbConfig "adb") := h.set_config
    exact ⟨hset.configfs, hset.bootmode, hset.events, hset.equipped⟩
  · have hset : Booted (i.set .sysUsbConfig "midi") := h.set_config
    exact ⟨hset.configfs, hset.bootmode, hset.events, hset.equipped⟩
  · exact h.beside (hlined.beside i) (hlined.equipped h.equipped)

theorem Running.turn (hplatform : Configfs platform) (h : Running platform i)
    (hturn : Trigger.turn exec (table platform) i = .ok i') : Running platform i' := by
  refine turn_cases hturn (fun a actions hactions => ?_) fun e events _ hevents => ?_
  · obtain ⟨ha, hrest⟩ := forall_actions_run exec h.actions hactions
    have htail : Booted { i with actions := actions } :=
      ⟨h.configfs, h.bootmode, h.events, h.equipped⟩
    exact ⟨htail.run hplatform ha, hrest⟩
  · refine ⟨⟨h.configfs, h.bootmode, fun v hv => ?_, h.equipped⟩,
      fun a ha => (List.mem_filter.1 ha).1⟩
    exact h.events v (hevents ▸ List.mem_cons_of_mem e hv)

theorem Running.step (hplatform : Configfs platform) {s s' : SystemState} {a : Step}
    (h : Running platform s.init) (hstep : step platform s a = .ok s') :
    Running platform s'.init := by
  cases a with
  | frameworkNone =>
    cases hstep
    exact ⟨h.set_config, h.actions⟩
  | framework config =>
    obtain ⟨-, rfl⟩ := ite_ok_eq_ok.1 hstep
    exact ⟨h.set_config, h.actions⟩
  | ffsReady ready =>
    cases hstep
    exact ⟨h.set (by decide), h.actions⟩
  | portIndex value =>
    cases hstep
    exact ⟨h.set (by decide), h.actions⟩
  | turn =>
    obtain ⟨i', hturn, rfl⟩ := step_turn hstep
    exact h.turn hplatform hturn

theorem running_of_run (hplatform : Configfs platform) {config portIndex : String}
    {acts : List Step} {s : SystemState}
    (h : run (Init.step platform) (start .normal config portIndex) acts = .ok s) :
    Running platform s.init :=
  run_keeps (P := fun s => Running platform s.init) (fun _ _ _ hs hstep => hs.step hplatform hstep)
    h ⟨booted_start config portIndex, fun _ ha => nomatch ha⟩

end Running

/-! ## Setting up a configuration -/

/-- The configuration of a rule is published, and the gadget has it. -/
structure Reached (r : Rule) (i : InitState) : Prop where
  state : i.props .sysUsbState = r.config
  gives : r.Gives i.device

/-- The event that a rule runs on once its configuration is set. -/
def Rule.event (r : Rule) : Event Property :=
  if r.ready then some (.sysUsbFfsReady, "1") else some (.sysUsbConfig, r.config)

/-- The configuration of a rule is set, on a gadget that suits it, and nothing else is pending. -/
structure Underway (r : Rule) (i : InitState) : Prop extends Booted i where
  config : i.props .sysUsbConfig = r.config
  pending : ∀ e ∈ i.events,
    e = some (.sysUsbConfig, r.config) ∨ e = some (.sysUsbFfsReady, "1") ∨ Quiet e
  actions : ∀ a ∈ i.actions, Lined r.config a
  suits : Suits r.config i.device

/-- The rule is going to publish, or has. -/
def Coming (r : Rule) (i : InitState) : Prop :=
  r.event ∈ i.events ∨ r.action ∈ i.actions ∨ Reached r i

section Underway

variable {platform : List (Action Property GadgetCommand)} {i i' : InitState} {r : Rule}
  {a : Action Property GadgetCommand} {actions : List (Action Property GadgetCommand)}
  {e : Event Property} {events : List (Event Property)}

theorem Rule.Gives.taken {g : Gadget} (h : r.Gives g) (f : UsbFunction) (l : Link)
    (hmem : (f, l) ∈ r.links) : g.links l ≠ none := by
  rw [(h.links f l).2 hmem]
  exact Option.some_ne_none f

theorem reached_run (hr : r ∈ rules) (hconfig : i.props .sysUsbConfig = r.config)
    (hfits : r.Fits i.device) : Reached r (r.action.run exec i) where
  state := (Rule.run_state r i).trans hconfig
  gives := by
    rw [Rule.run]
    exact (gives_iff_fits i.props i.device (proper_of_mem r hr)).2 hfits

/-- The other rules of the configuration leave it published. -/
theorem Reached.auxiliary (h : Reached r i) (hr : r ∈ rules)
    (hconfig : i.props .sysUsbConfig = r.config) (ha : Auxiliary r.config a) :
    Reached r (a.run exec i) where
  state := by
    rcases (ha.lined.beside i).state with hsame | hpublished
    · rw [hsame, h.state]
    · rw [hpublished, hconfig]
  gives := (ha.adjusted i).gives hr h.gives.taken h.gives

theorem Underway.run (h : Underway r i) (hactions : i.actions = a :: actions) :
    Underway r (a.run exec { i with actions := actions }) := by
  obtain ⟨hlined, hrest⟩ := forall_actions_run exec h.actions hactions
  have hbeside := hlined.beside { i with actions := actions }
  exact ⟨h.toBooted.run_lined hlined, hbeside.config.trans h.config,
    fun e he => (hbeside.mem_events he).elim (h.pending e) fun hquiet => .inr (.inr hquiet), hrest,
    hlined.suits (.inl rfl) h.equipped h.suits⟩

theorem Coming.run (hr : r ∈ rules) (h : Underway r i) (hcoming : Coming r i)
    (hactions : i.actions = a :: actions) :
    Coming r (a.run exec { i with actions := actions }) := by
  have hlined : Lined r.config a := h.actions a (hactions ▸ List.mem_cons_self)
  have hbeside := hlined.beside { i with actions := actions }
  by_cases ha : a = r.action
  · subst ha
    exact .inr (.inr (reached_run hr h.config (h.suits.fits hr rfl)))
  · rcases hcoming with hevent | hmem | hreached
    · exact .inl (hbeside.events_subset hevent)
    · exact .inr (.inl (mem_actions_run hmem hactions ha))
    · rcases hlined with ⟨r', hr', hsame, rfl⟩ | haux
      · exact absurd (congrArg Rule.action (eq_of_config r hr r' hr' hsame)) ha
      · have htail : Reached r { i with actions := actions } := ⟨hreached.state, hreached.gives⟩
        exact .inr (.inr (htail.auxiliary hr h.config haux))

/-- Of what is pending, nothing lines up a rule for something else. -/
theorem Underway.lined (hplatform : Configfs platform) (h : Underway r i) (he : e ∈ i.events)
    (ha : a ∈ table platform) (htriggered : a.triggered i.props e) : Lined r.config a := by
  rcases h.pending e he with rfl | rfl | hquiet
  · have hlined := lined_of_triggered hplatform ha (by decide) htriggered
    rwa [if_pos rfl] at hlined
  · have hlined := lined_of_triggered hplatform ha (by decide) htriggered
    rwa [if_neg (by decide), h.config] at hlined
  · have hmem := List.mem_filter.2 ⟨ha, htriggered⟩
    rw [filter_quiet hplatform hquiet] at hmem
    cases hmem

theorem Underway.take (hplatform : Configfs platform) (h : Underway r i)
    (hevents : i.events = e :: events) :
    Underway r { i with
      events := events, actions := (table platform).filter (·.triggered i.props e) } := by
  have hrest {e' : Event Property} (he' : e' ∈ events) : e' ∈ i.events :=
    hevents ▸ List.mem_cons_of_mem e he'
  refine ⟨⟨h.configfs, h.bootmode, fun v hv => h.events v (hrest hv), h.equipped⟩, h.config,
    fun e' he' => h.pending e' (hrest he'), fun a ha => ?_, h.suits⟩
  obtain ⟨hmem, htriggered⟩ := List.mem_filter.1 ha
  have he : e ∈ i.events := hevents ▸ List.mem_cons_self
  exact h.lined hplatform he hmem htriggered

theorem Rule.triggered_event (hr : r ∈ rules) {props : Property → String}
    (hconfigfs : props .sysUsbConfigfs = "1") (hconfig : props .sysUsbConfig = r.config) :
    r.action.triggered props r.event := by
  have habout := about_action hr
  have hwaits := waits_action r hr
  unfold Rule.event
  cases hready : r.ready with
  | true => exact habout.triggered_ready (hwaits.trans hready) hconfigfs hconfig
  | false => exact habout.triggered (hwaits.trans hready) hconfigfs

theorem Coming.take (hr : r ∈ rules) (h : Underway r i) (hcoming : Coming r i)
    (hactions : i.actions = []) (hevents : i.events = e :: events) :
    Coming r { i with
      events := events, actions := (table platform).filter (·.triggered i.props e) } := by
  rcases hcoming with hevent | hmem | hreached
  · rw [hevents] at hevent
    rcases List.mem_cons.1 hevent with rfl | hevent
    · have hmem : r.action ∈ table platform :=
        List.mem_cons_of_mem _ (List.mem_append_left _ (action_mem r hr))
      exact .inr (.inl (List.mem_filter.2 ⟨hmem, Rule.triggered_event hr h.configfs h.config⟩))
    · exact .inl hevent
  · rw [hactions] at hmem
    cases hmem
  · exact .inr (.inr ⟨hreached.state, hreached.gives⟩)

/-- Init sets a configuration up, and publishes it if its rule has been called for. -/
theorem Underway.exists_reached (hplatform : Configfs platform) (hr : r ∈ rules)
    (h : Underway r i) {called : Prop} (hcoming : called → Coming r i) :
    ∃ i', Turns platform i i' ∧ Idle i' ∧ Underway r i' ∧ (called → Reached r i') := by
  have hkeeps (i i' : InitState) (hi : Underway r i ∧ (called → Coming r i))
      (hturn : turn exec (table platform) i = .ok i') :
      Underway r i' ∧ (called → Coming r i') := by
    obtain ⟨h, hcoming⟩ := hi
    exact turn_cases (P := fun i' => Underway r i' ∧ (called → Coming r i')) hturn
      (fun _ _ hactions => ⟨h.run hactions, fun hc => (hcoming hc).run hr h hactions⟩)
      fun _ _ hactions hevents =>
        ⟨h.take hplatform hevents, fun hc => (hcoming hc).take hr h hactions hevents⟩
  obtain ⟨i', hturns, hidle, h', hcoming'⟩ := Turns.exists_idle hplatform hkeeps ⟨h, hcoming⟩
  refine ⟨i', hturns, hidle, h', fun hc => ?_⟩
  rcases hcoming' hc with hevent | hmem | hreached
  · rw [hidle.2] at hevent
    cases hevent
  · rw [hidle.1] at hmem
    cases hmem
  · exact hreached

end Underway

/-! ## The phases of a switch -/

section Phases

variable {platform : List (Action Property GadgetCommand)} {i : InitState} {r : Rule}
  {name : Property} {value : String}

theorem events_set (hidle : Idle i) : (i.set name value).events = [some (name, value)] := by
  unfold State.set
  rw [hidle.2, List.nil_append]

/-- `none` leaves a clean gadget. -/
theorem turns_none (hplatform : Configfs platform) (hbooted : Booted i) (hidle : Idle i) :
    ∃ i', Turns platform (i.set .sysUsbConfig "none") i' ∧ Idle i' ∧ Clearing i' :=
  Turns.exists_idle hplatform (fun _ _ h hturn => h.turn hplatform hturn)
    (hidle.set_none hbooted)

/-- The configuration is set on a clean gadget: its rule runs, unless it waits for `adbd`. -/
theorem turns_config (hplatform : Configfs platform) (hr : r ∈ rules) (h : Clearing i)
    (hidle : Idle i) : ∃ i', Turns platform (i.set .sysUsbConfig r.config) i' ∧ Idle i' ∧
      Underway r i' ∧ (r.ready = false → Reached r i') := by
  have hevents : (i.set .sysUsbConfig r.config).events = _ := events_set hidle
  have hactions : (i.set .sysUsbConfig r.config).actions = [] := hidle.1
  refine Underway.exists_reached hplatform hr
    ⟨h.set_config, set_props_self, fun e he => ?_, fun a ha => ?_,
      (h.clean hidle).suits h.equipped _⟩ fun hready => .inl ?_
  · rw [hevents] at he
    exact .inl (List.mem_singleton.1 he)
  · rw [hactions] at ha
    cases ha
  · rw [hevents, Rule.event, hready]
    exact List.mem_cons_self

/-- `adbd` reports ready: the rule of the configuration runs if it waited for that. -/
theorem turns_ready (hplatform : Configfs platform) (hr : r ∈ rules) (h : Underway r i)
    (hidle : Idle i) (hreached : r.ready = false → Reached r i) :
    ∃ i', Turns platform (i.set .sysUsbFfsReady "1") i' ∧ Idle i' ∧ Reached r i' := by
  have hevents : (i.set .sysUsbFfsReady "1").events = _ := events_set hidle
  have hactions : (i.set .sysUsbFfsReady "1").actions = [] := hidle.1
  have hconfig : (i.set .sysUsbFfsReady "1").props .sysUsbConfig = r.config :=
    (set_props_of_ne (by decide)).trans h.config
  have hunderway : Underway r (i.set .sysUsbFfsReady "1") := by
    refine ⟨h.toBooted.set (by decide), hconfig, fun e he => ?_, fun a ha => ?_,
      h.suits⟩
    · rw [hevents] at he
      exact .inr (.inl (List.mem_singleton.1 he))
    · rw [hactions] at ha
      cases ha
  have hcoming : Coming r (i.set .sysUsbFfsReady "1") := by
    cases hready : r.ready with
    | true =>
      refine .inl ?_
      rw [hevents, Rule.event, hready]
      exact List.mem_cons_self
    | false =>
      have hbefore := hreached hready
      exact .inr (.inr ⟨(set_props_of_ne (by decide)).trans hbefore.state, hbefore.gives⟩)
  obtain ⟨i', hturns, hidle', -, hreached'⟩ :=
    hunderway.exists_reached hplatform hr fun _ : True => hcoming
  exact ⟨i', hturns, hidle', hreached' trivial⟩

end Phases

/-! ## Orderly switches -/

structure OrderlyRun (platform : List (Action Property GadgetCommand)) (s : SystemState)
    (acts : List Step) (s' : SystemState) : Prop where
  run : run (step platform) s acts = .ok s'
  orderly : Guarded (step platform) Orderly s acts

namespace OrderlyRun

variable {platform : List (Action Property GadgetCommand)} {s s₁ s' : SystemState}
  {i i' : InitState} {acts acts' : List Step} {noneSet : Bool}

theorem append (h : OrderlyRun platform s acts s₁) (h' : OrderlyRun platform s₁ acts' s') :
    OrderlyRun platform s (acts ++ acts') s' :=
  ⟨(run_append_ok h.run acts').trans h'.run, h.orderly.append h.run h'.orderly⟩

theorem turns (hturns : Turns platform i i') (noneSet : Bool) :
    ∃ n, OrderlyRun platform ⟨i, noneSet⟩ (List.replicate n .turn) ⟨i', noneSet⟩ := by
  obtain ⟨n, hn⟩ := hturns
  refine ⟨n, hn noneSet, guarded_of_forall fun s b hb => ?_⟩
  obtain rfl := List.eq_of_mem_replicate hb
  trivial

/-- A change, and then init until it has nothing to do. -/
theorem change {a : Step} (hstep : step platform s a = .ok ⟨i, noneSet⟩)
    (horderly : Orderly s a) (hturns : Turns platform i i') :
    ∃ n, OrderlyRun platform s (a :: List.replicate n .turn) ⟨i', noneSet⟩ := by
  obtain ⟨n, hrun, hrest⟩ := turns hturns noneSet
  refine ⟨n, (run_cons_ok hstep).trans hrun, horderly, ?_⟩
  rw [hstep]
  exact hrest

end OrderlyRun

/-- The framework and `adbd` switch, and so many turns of init follow each change. -/
def switch (r : Rule) (n m k : Nat) : List Step :=
  (.frameworkNone :: List.replicate n .turn) ++ (.framework r.config :: List.replicate m .turn) ++
    (.ffsReady true :: List.replicate k .turn)

/-- **Every configuration is reached from anywhere**: whatever has happened since boot, init comes
to rest, and a switch, which is itself orderly, then gets to the configuration. -/
theorem switch_reaches {platform : List (Action Property GadgetCommand)}
    (hplatform : Configfs platform) {config portIndex : String} {acts : List Step}
    {s : SystemState} {r : Rule}
    (h : run (step platform) (start .normal config portIndex) acts = .ok s) (hr : r ∈ rules) :
    ∃ j n m k s', OrderlyRun platform s (List.replicate j .turn ++ switch r n m k) s' ∧
      Idle s'.init ∧ Reached r s'.init := by
  obtain ⟨i₀, hturns₀, hidle₀, hrunning⟩ := Turns.exists_idle hplatform
    (fun _ _ hi hturn => hi.turn hplatform hturn) (running_of_run hplatform h)
  obtain ⟨i₁, hturns₁, hidle₁, hclearing⟩ := turns_none hplatform hrunning.toBooted hidle₀
  obtain ⟨i₂, hturns₂, hidle₂, hunderway, hreached₂⟩ :=
    turns_config hplatform hr hclearing hidle₁
  obtain ⟨i₃, hturns₃, hidle₃, hreached⟩ :=
    turns_ready hplatform hr hunderway hidle₂ hreached₂
  obtain ⟨j, hrest⟩ := OrderlyRun.turns hturns₀ s.noneSet
  obtain ⟨n, hnone⟩ := OrderlyRun.change (s := ⟨i₀, s.noneSet⟩) (a := .frameworkNone) rfl hidle₀
    hturns₁
  obtain ⟨m, hconfig⟩ := OrderlyRun.change (s := ⟨i₁, true⟩) (a := .framework r.config) rfl
    ⟨hidle₁, hclearing.config⟩ hturns₂
  obtain ⟨k, hready⟩ := OrderlyRun.change (s := ⟨i₂, false⟩) (a := .ffsReady true) rfl
    (fun _ => hidle₂) hturns₃
  exact ⟨j, n, m, k, ⟨i₃, false⟩, hrest.append ((hnone.append hconfig).append hready), hidle₃,
    hreached⟩

instance (i : InitState) : Decidable (Idle i) := inferInstanceAs (Decidable (_ ∧ _))

/-- From the run that publishes `adb` over `mtp`. -/
theorem switch_reaches_ptp : ∃ j n m k s', OrderlyRun [platformNone]
    (final (step [platformNone]) (start .normal "" "0") adbOverMtp)
      (List.replicate j .turn ++ switch ptp n m k) s' ∧ Idle s'.init ∧ Reached ptp s'.init :=
  switch_reaches configfs_platformNone (run_eq_ok_final (by decide +kernel)) (by decide)

/-! ## What is published from then on -/

def SystemState.logged (s : SystemState) (old : List (Setting Property GadgetCommand Gadget)) :
    SystemState := ⟨s.init.logged old, s.noneSet⟩

theorem step_logged {platform : List (Action Property GadgetCommand)} {s t : SystemState}
    {a : Step} {old : List (Setting Property GadgetCommand Gadget)}
    (h : step platform (s.logged old) a = .ok t) :
    ∃ s', step platform s a = .ok s' ∧ t = s'.logged old := by
  cases a with
  | frameworkNone | ffsReady ready | portIndex value =>
    cases h
    exact ⟨_, rfl, rfl⟩
  | framework config =>
    obtain ⟨hnone, rfl⟩ := ite_ok_eq_ok.1 h
    exact ⟨_, if_pos hnone, rfl⟩
  | turn =>
    have hturn : turn exec (table platform) (s.init.logged old) = _ :=
      turn_logged (table platform) s.init old
    cases hs : turn exec (table platform) s.init with
    | error e =>
      rw [hs] at hturn
      simp only [step, SystemState.logged, hturn] at h
      cases h
    | ok i =>
      rw [hs] at hturn
      simp only [step, SystemState.logged, hturn] at h
      cases h
      refine ⟨⟨i, s.noneSet⟩, ?_, rfl⟩
      simp only [step, hs]
      rfl

/-- Whatever was published before, from the first orderly `none` on it is right. -/
theorem published_right_from_none {platform : List (Action Property GadgetCommand)}
    (hplatform : Configfs platform) {config portIndex : String} {acts acts' : List Step}
    {s s' : SystemState} (h : run (step platform) (start .normal config portIndex) acts = .ok s)
    (h' : OrderlyRun platform s (.frameworkNone :: acts') s') :
    ∃ new, s'.init.sets = s.init.sets ++ new ∧
      PublishedRight ⟨{ s'.init with sets := new }, s'.noneSet⟩ := by
  have hrunning := running_of_run hplatform h
  obtain ⟨hrun, hidle, hrest⟩ := h'
  -- the run without what was published before
  let s₁ : SystemState := ⟨{ s.init.set .sysUsbConfig "none" with sets := [] }, true⟩
  have hlogged : step platform s .frameworkNone = .ok (s₁.logged s.init.sets) := by
    simp [s₁, step, SystemState.logged, State.logged, State.set]
  have hordered : Ordered s₁.init := by
    have hidle₀ : Idle { s.init with sets := [] } := hidle
    exact .clearing (hidle₀.set_none
      ⟨hrunning.configfs, hrunning.bootmode, hrunning.events, hrunning.equipped⟩)
  have hkeeps (u : SystemState) (a : Step) (u' : SystemState)
      (hu : ∃ t : SystemState, u = t.logged s.init.sets ∧ Ordered t.init ∧ PublishedRight t)
      (ha : Orderly u a) (hstep : step platform u a = .ok u') :
      ∃ t : SystemState, u' = t.logged s.init.sets ∧ Ordered t.init ∧ PublishedRight t := by
    obtain ⟨t, rfl, ht, hright⟩ := hu
    obtain ⟨t', hstep', rfl⟩ := step_logged hstep
    have hadmitted : Orderly t a := by cases a <;> exact ha
    exact ⟨t', rfl, ht.step hplatform hadmitted hstep',
      (publishedRight_step hright hstep').2 (ht.startsFitting a)⟩
  rw [hlogged] at hrest
  rw [run_cons_ok hlogged] at hrun
  obtain ⟨t, rfl, -, hright⟩ :=
    run_guarded hkeeps hrun hrest ⟨s₁, rfl, hordered, fun _ he => (List.not_mem_nil he).elim⟩
  exact ⟨t.init.sets, rfl, hright⟩

/-- Init finishes `none`, and the framework goes on to `ptp`. -/
def noneToPtp : List Step :=
  [.turn, .turn, .turn, .turn, .framework "ptp", .turn, .turn, .turn]

/-- After the run that publishes `adb` over `mtp`. -/
theorem published_right_from_none_ptp :
    let s := final (step [platformNone]) (start .normal "" "0") (adbOverMtp ++ [.turn])
    let s' := final (step [platformNone]) s (.frameworkNone :: noneToPtp)
    ∃ new, s'.init.sets = s.init.sets ++ new ∧
      PublishedRight ⟨{ s'.init with sets := new }, s'.noneSet⟩ :=
  published_right_from_none configfs_platformNone (run_eq_ok_final (by decide +kernel))
    ⟨run_eq_ok_final (by decide +kernel), by decide +kernel⟩

end RMX2020.Init
