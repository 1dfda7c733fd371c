import TacticalMicrogrid.PowerDevices.Obedience
import TacticalMicrogrid.StartStop.IntentBatches

/-!
# One request at a time

A listener that takes several requests together does one thing for all of them. Here it takes
requests with at most one of them for it: the controller records what an operator asks for, and
sends it to the device if it is the device's master and had recorded another level; the device
obeys.

## Main definitions

* `CLIServer.levelsFor`: the levels for a device among what is asked for.

## Main results

* `CLIServer.oirOnDataAvailable_of_known`: what a controller records and sends.
* `PowerDevice.essl_of_accepted`: the level of a device.
-/

namespace TacticalMicrogrid

namespace CLIServer

variable {s : CLIServer} {d : Identity} {pd : PowerDeviceInfo}

/-- The levels for a device among what is asked for. -/
def levelsFor (d : Identity) (asked : List (Identity × OperatorPriorityType)) :
    List EnergyStartStopLevel :=
  (asked.filter (·.1 = d)).map (esslFromOpt ·.2)

theorem levelsFor_append (asked asked' : List (Identity × OperatorPriorityType)) :
    levelsFor d (asked ++ asked') = levelsFor d asked ++ levelsFor d asked' := by
  rw [levelsFor, List.filter_append, List.map_append]
  rfl

theorem directives_append (mcId : Identity) (data data' : List (Sample OperatorIntentRequest)) :
    directives mcId (data ++ data') = directives mcId data ++ directives mcId data' := by
  rw [directives, List.filter_append, List.flatMap_append]
  rfl

/-- What a controller sends names the controller and the device of the request. -/
theorem of_mem_startStopDevice {pdId : Identity} {opt : OperatorPriorityType} {writeOk : Bool}
    {essr : EnergyStartStopRequest} (h : essr ∈ (s.startStopDevice pdId opt writeOk).2) :
    essr = s.essrTo pdId (esslFromOpt opt) := by
  rcases s.startStopDevice_cases pdId opt writeOk with
    ⟨-, heq⟩ | ⟨-, -, -, -, ⟨-, heq⟩ | ⟨-, -, heq⟩ | ⟨-, -, heq⟩⟩ <;> rw [heq] at h
  · cases h
  · cases h
  · exact List.mem_singleton.mp h
  · cases h

theorem sender_of_mem_oirOnDataAvailable {data : List (Sample OperatorIntentRequest)}
    {writeOk : Bool} {essr : EnergyStartStopRequest}
    (h : essr ∈ (s.oirOnDataAvailable data writeOk).2) :
    essr.requestId.requestingDeviceId = s.controller.deviceId := by
  rw [oirOnDataAvailable] at h
  split at h
  · rw [of_mem_startStopDevice h]
    rfl
  · cases h

theorem config_of_mem_oirOnDataAvailable {data : List (Sample OperatorIntentRequest)}
    {writeOk : Bool} {essr : EnergyStartStopRequest}
    (h : essr ∈ (s.oirOnDataAvailable data writeOk).2) : essr.requestId.config = .active := by
  rw [oirOnDataAvailable] at h
  split at h
  · rw [of_mem_startStopDevice h]
    rfl
  · cases h

/-- A request for another device changes nothing that is recorded about a device. -/
theorem find?_startStopDevice_of_ne {pdId : Identity} (hne : d ≠ pdId) (opt : OperatorPriorityType)
    (writeOk : Bool) : (s.startStopDevice pdId opt writeOk).1.controller.powerDevices.find? d =
      s.controller.powerDevices.find? d := by
  have hlevel : (s.controller.updateEssl pdId (esslFromOpt opt)).powerDevices.find? d =
      s.controller.powerDevices.find? d := by
    rw [Controller.updateEssl, Table.find?_modify, if_neg hne]
  rcases s.startStopDevice_cases pdId opt writeOk with
    ⟨-, heq⟩ | ⟨-, -, -, -, ⟨-, heq⟩ | ⟨-, -, heq⟩ | ⟨-, -, heq⟩⟩ <;> rw [heq]
  · exact hlevel
  · exact hlevel

/-- A request for a known device is recorded, and the master of the device sends it if another level
was recorded. -/
theorem startStopDevice_of_known {opt : OperatorPriorityType}
    (hpd : s.controller.powerDevices.find? d = some pd) (hto : esslFromOpt opt ≠ .unknown) :
    ((s.startStopDevice d opt true).1.controller.powerDevices.find? d).map (·.essl) =
        some (esslFromOpt opt) ∧
      (s.startStopDevice d opt true).2.map (·.toLevel) =
        if pd.masterId = some s.controller.deviceId then
          [esslFromOpt opt].filter (pd.essl ≠ ·)
        else [] := by
  have hlevel : ((s.controller.updateEssl d (esslFromOpt opt)).powerDevices.find? d).map (·.essl) =
      some (esslFromOpt opt) := by
    rw [Controller.updateEssl, Table.find?_modify, if_pos rfl, hpd]
    rfl
  rcases s.startStopDevice_cases d opt true with
    ⟨hnone | hunknown | ⟨-, hrepeats⟩, heq⟩ |
      ⟨pd', hpd', -, hne, ⟨hother, heq⟩ | ⟨hown, -, heq⟩ | ⟨-, h, -⟩⟩
  · cases hnone.symm.trans hpd
  · exact absurd hunknown hto
  · rw [heq]
    refine ⟨hrepeats, ?_⟩
    rw [hpd, Option.map_some] at hrepeats
    rw [List.filter_cons_of_neg (by simpa using Option.some.inj hrepeats), List.filter_nil,
      ite_self]
    rfl
  · obtain rfl := Option.some.inj (hpd.symm.trans hpd')
    rw [heq, if_neg hother]
    exact ⟨hlevel, rfl⟩
  · obtain rfl := Option.some.inj (hpd.symm.trans hpd')
    rw [heq, if_pos hown, List.filter_cons_of_pos (by simpa using hne), List.filter_nil]
    exact ⟨hlevel, rfl⟩
  · cases h

/-- A controller that is asked for one thing at most records it, and sends it if it is the master of
the device and had recorded another level. -/
theorem oirOnDataAvailable_of_known {mcId : Identity} {data : List (Sample OperatorIntentRequest)}
    (hid : s.controller.deviceId = mcId) (hpd : s.controller.powerDevices.find? d = some pd)
    (hone : (directives mcId data).length ≤ 1)
    (hto : .unknown ∉ levelsFor d (directives mcId data)) :
    ((s.oirOnDataAvailable data true).1.controller.powerDevices.find? d).map (·.essl) =
        some ((levelsFor d (directives mcId data)).getLastD pd.essl) ∧
      ((s.oirOnDataAvailable data true).2.filter (·.requestId.targetDeviceId = d)).map (·.toLevel) =
        if pd.masterId = some mcId then (levelsFor d (directives mcId data)).filter (pd.essl ≠ ·)
        else [] := by
  obtain rfl := hid
  have hcalls : startStopCalls s.controller.deviceId data = directives s.controller.deviceId data :=
    (startStopCalls_sublist _ data).eq_of_length
      ((length_startStopCalls _ data).trans (min_eq_right hone))
  rw [oirOnDataAvailable_eq, hcalls]
  generalize directives s.controller.deviceId data = asked at hone hto ⊢
  rcases asked with _ | ⟨⟨pdId, opt⟩, _ | ⟨_, _⟩⟩
  · refine ⟨?_, (ite_self _).symm⟩
    rw [startStopAll, hpd]
    rfl
  · simp only [startStopAll, List.append_nil]
    rcases eq_or_ne pdId d with rfl | hne
    · have hlevels : levelsFor pdId [(pdId, opt)] = [esslFromOpt opt] := by simp [levelsFor]
      rw [hlevels] at hto ⊢
      obtain ⟨hessl, hsent⟩ := startStopDevice_of_known hpd
        fun h => hto (List.mem_singleton.mpr h.symm)
      refine ⟨hessl, ?_⟩
      rwa [List.filter_eq_self.mpr fun essr hessr => ?_]
      rw [of_mem_startStopDevice hessr]
      exact decide_eq_true rfl
    · have hlevels : levelsFor d [(pdId, opt)] = [] := by simp [levelsFor, hne]
      have hnone : (s.startStopDevice pdId opt true).2.filter (·.requestId.targetDeviceId = d) =
          [] := List.filter_eq_nil_iff.mpr fun essr hessr => by
        rw [of_mem_startStopDevice hessr]
        exact fun h => hne (of_decide_eq_true h)
      rw [hlevels, find?_startStopDevice_of_ne hne.symm, hpd, hnone, List.filter_nil, ite_self]
      exact ⟨rfl, rfl⟩
  · simp at hone

end CLIServer

namespace PowerDevice

/-- A device that gets one request at most that it accepts is at the level of that request
afterwards. -/
theorem essl_of_accepted {τ : Type} {d : PowerDevice τ}
    {data : List (Sample EnergyStartStopRequest)} (hone : (d.accepted data).length ≤ 1) :
    (d.essrOnDataAvailable data).1.essl =
      ((d.accepted data).map (·.toLevel)).getLastD d.essl := by
  rw [essl_essrOnDataAvailable, firstAccepted_eq]
  generalize d.accepted data = requests at hone ⊢
  rcases requests with _ | ⟨essr, _ | ⟨_, _⟩⟩
  · rfl
  · rfl
  · simp at hone

end PowerDevice

end TacticalMicrogrid
