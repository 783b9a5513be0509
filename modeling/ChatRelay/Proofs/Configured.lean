import ChatRelay.Hub

/-!
# What settings make

A hub that was made of settings has the decorators that they turn on, in their order, and every
backend of it has their budgets.

* `Chain.decorators_ofSettings`   the chain of settings holds their decorators;
* `mem_of_changeAll`              what a list comes from that was changed item by item;
* `Hub.relay_eq`                  a relay of a hub has the chain and the budgets of the settings;
* `Duration.wholeSeconds`         a reader of durations, for settings that are written out.
-/

namespace ChatRelay

/-! ## the chain -/

namespace Chain

theorem put_of_not_mem {d : Decorator} {ds : List Decorator} (h : d.name ∉ ds.map (·.name)) :
    put d ds = ds ++ [d] := by
  induction ds with
  | nil => rfl
  | cons x xs ih =>
    rw [List.map_cons, List.mem_cons, not_or] at h
    rw [put, if_neg fun e => h.1 e.symm, ih h.2, List.cons_append]

/-- decorators of different names stand in a chain as they were registered -/
theorem decorators_foldl_register (ds : List Decorator) (c : Chain)
    (h : ((c.decorators ++ ds).map (·.name)).Nodup) :
    (ds.foldl register c).decorators = c.decorators ++ ds := by
  -- by induction on what is still to be registered, while the chain grows
  induction ds generalizing c with
  | nil => rw [List.foldl_nil, List.append_nil]
  | cons d ds ih =>
    have hnew : d.name ∉ c.decorators.map (·.name) := by
      rw [List.map_append, List.map_cons] at h
      intro hmem
      exact (List.nodup_append.mp h).2.2 _ hmem _ List.mem_cons_self rfl
    have hput : (c.register d).decorators = c.decorators ++ [d] := put_of_not_mem hnew
    have happend : c.decorators ++ [d] ++ ds = c.decorators ++ d :: ds := by simp
    rw [List.foldl_cons, ih _ (by rw [hput, happend]; exact h), hput, happend]

theorem toList_map_sublist {α β : Type} (f : α → β) (o : Option α) (a : α) :
    (o.map f).toList.Sublist [f (o.getD a)] := by
  cases o with
  | none => exact List.nil_sublist _
  | some x => exact List.Sublist.refl _

/-- the decorators of settings are among four, where a value that is missing binds nothing -/
theorem decorators_sublist (s : DecoratorSettings) : s.decorators.Sublist
    [.defaultMaxTokens (s.defaultMaxTokens.getD 0), .maxTokensCap (s.maxTokensCap.getD .top),
      .defaultTemperature (s.defaultTemperature.getD 0), .streamUsage] := by
  have hdefault := toList_map_sublist Decorator.defaultMaxTokens s.defaultMaxTokens 0
  have hcap := toList_map_sublist Decorator.maxTokensCap s.maxTokensCap .top
  have htemperature := toList_map_sublist Decorator.defaultTemperature s.defaultTemperature 0
  have husage : (if s.forceStreamUsage then [Decorator.streamUsage] else []).Sublist
      [.streamUsage] := by
    cases s.forceStreamUsage
    · exact List.nil_sublist _
    · exact List.Sublist.refl _
  exact ((hdefault.append hcap).append htemperature).append husage

theorem nodup_names_decorators (s : DecoratorSettings) : (s.decorators.map (·.name)).Nodup := by
  have hnames : (s.decorators.map (·.name)).Sublist
      ["default_max_tokens", "max_tokens_cap", "default_temperature", "stream_usage"] :=
    (decorators_sublist s).map _
  exact hnames.nodup (by decide)

theorem decorators_ofSettings (s : DecoratorSettings) :
    (ofSettings s).decorators = s.decorators :=
  decorators_foldl_register s.decorators {} (nodup_names_decorators s)

end Chain

/-! ## the backends -/

theorem mem_of_changeAll {α β : Type} {f : α → Except Fault β} {as : List α} {bs : List β}
    (h : changeAll f as = .ok bs) {b : β} (hb : b ∈ bs) : ∃ a ∈ as, f a = .ok b := by
  induction as generalizing bs with
  | nil =>
    obtain rfl : [] = bs := Except.ok.inj h
    exact nomatch hb
  | cons a as ih =>
    obtain ⟨x, hx, h⟩ := ok_of_bind h
    obtain ⟨xs, hxs, h⟩ := ok_of_bind h
    obtain rfl : x :: xs = bs := Except.ok.inj h
    rcases List.mem_cons.mp hb with rfl | hmem
    · exact ⟨a, List.mem_cons_self, hx⟩
    · obtain ⟨y, hy, hfy⟩ := ih hxs hmem
      exact ⟨y, List.mem_cons_of_mem a hy, hfy⟩

theorem BackendSettings.budgets_backend {budgets : Budgets} {s : BackendSettings} {b : Backend}
    (h : s.backend budgets = .ok b) : b.budgets = budgets := by
  obtain ⟨channels, -, h⟩ := ok_of_bind h
  rw [← Except.ok.inj h]

namespace Hub

theorem ofSettings_eq {durations : Duration.Reader} {s : Settings} {h : Hub}
    (hs : ofSettings durations s = .ok h) :
    h.chain = .ofSettings s.decorators ∧ ∀ x ∈ h.backends, x.2.budgets = s.budgets := by
  obtain ⟨backends, hbackends, hs⟩ := ok_of_bind hs
  obtain ⟨policy, -, hs⟩ := ok_of_bind hs
  rw [← Except.ok.inj hs]
  refine ⟨rfl, fun x hx => ?_⟩
  obtain ⟨⟨name, bs⟩, -, hb⟩ := mem_of_changeAll hbackends hx
  obtain ⟨b, hb, hx⟩ := ok_of_bind hb
  rw [← Except.ok.inj hx]
  exact BackendSettings.budgets_backend hb

theorem relay_eq {durations : Duration.Reader} {s : Settings} {h : Hub}
    (hs : ofSettings durations s = .ok h) {d : Dialect} {name : String} {r : Relay}
    (hr : h.relay d name = .ok r) :
    r.chain = .ofSettings s.decorators ∧ r.backend.budgets = s.budgets := by
  obtain ⟨hchain, hbudgets⟩ := ofSettings_eq hs
  unfold relay at hr
  cases hlookup : h.backends.lookup name with
  | none =>
    rw [hlookup] at hr
    exact nomatch hr
  | some b =>
    rw [hlookup] at hr
    rw [← Except.ok.inj hr]
    obtain ⟨before, after, hmem, -⟩ := List.lookup_eq_some_iff.mp hlookup
    refine ⟨hchain, hbudgets (name, b) ?_⟩
    rw [hmem]
    exact List.mem_append_right before List.mem_cons_self

end Hub

/-! ## a reader of durations -/

namespace Duration

/-- a reader of whole seconds, digits with an `s` behind them, and of nothing else -/
def wholeSeconds : Reader := fun s =>
  match Text.cutAt? 's' s.toList with
  | some (c :: cs, []) =>
    if (c :: cs).all Char.isDigit then
      .ok ((c :: cs).foldl (fun n c => 10 * n + (c.toNat - 48)) 0 * 1000000000)
    else .error "not a number of seconds"
  | _ => .error "not a number of seconds"

end Duration

end ChatRelay
