import SolanaGuardian.Detector.Model
import SolanaGuardian.Lib.Decimal
import SolanaGuardian.Response.Signature

/-!
# Incident proofs and alerts (`app/services/notifier.py`)

`generate_incident_proof` builds the record of an incident, and `dispatch_alerts` posts it to the
channels that the settings configure. A post is a parameter: it returns, or it raises.

* `alerts_account`: the report accounts for each of the four channels once: notified, unconfigured,
  or contacted in vain, which the report does not mention. Nothing else is contacted.
* `incidentId_iff`: two incidents have one identifier exactly if they have one slot and one second.
* `alerts_tell`: what of an incident can be read from its messages. They say that an asset is paused,
  and nothing of what was detected.
-/

namespace SolanaGuardian
namespace Response

open Detector (CompoundVerdict ThreatLevel)

/-! ## The incident proof -/

/-- What `generate_incident_proof` returns. -/
structure IncidentProof where
  incidentId : String
  timestamp : ℚ
  targetNetwork : String
  protocolProtection : String
  totalEndToEndLatencyMs : ℚ
  targetLatencyCapMs : ℚ
  latencyGuaranteeAchieved : Bool
  threatScorePct : ℚ
  threatLevel : ThreatLevel
  attackVector : String
  actionType : String
  isolatedAsset : String
  jitoBundleHash : Option String
  capitalPreservedUsd : ℚ
  unfreezeMechanism : String
  unilateralUnpauseBlocked : Bool
  deriving DecidableEq

/-- The identifier of an incident, with the seconds of a clock reading. -/
def incidentId (slot : Option ℤ) (now : ℚ) : String :=
  "SOL-GUARDIAN-INCIDENT-" ++ slotText slot ++ "-" ++ toString (Python.int now)

/-- `IncidentNotifier`. -/
structure IncidentNotifier where
  discordWebhook : Option String
  telegramToken : Option String
  telegramChat : Option String

/-- `IncidentNotifier.__init__`. -/
def IncidentNotifier.init (settings : ServiceSettings) : IncidentNotifier :=
  { discordWebhook := settings.alertWebhookUrl
    telegramToken := settings.telegramBotToken
    telegramChat := settings.telegramChatId }

/-- `generate_incident_proof`, with its two clock readings. -/
def generateIncidentProof (slot : Option ℤ) (asset : String) (detectionData : CompoundVerdict)
    (simulationData : Simulation) (executionData : Bundle) (totalLatencyMs now now' : ℚ) :
    IncidentProof :=
  { incidentId := incidentId slot now
    timestamp := now'
    targetNetwork := "Solana Mainnet-Beta"
    protocolProtection := "Active"
    totalEndToEndLatencyMs := Python.round totalLatencyMs 2
    targetLatencyCapMs := 30
    latencyGuaranteeAchieved := totalLatencyMs ≤ 30
    threatScorePct := detectionData.threatScorePct
    threatLevel := detectionData.threatLevel
    attackVector := "COMPOUND_ORACLE_FLASHLOAN_DRAIN"
    actionType := "GRANULAR_ASSET_PAUSE"
    isolatedAsset := asset
    jitoBundleHash := executionData.jitoBundleHash
    capitalPreservedUsd := simulationData.liquidityPreservedUsd
    unfreezeMechanism := "SQUADS_MULTISIG_REQUIRED"
    unilateralUnpauseBlocked := true }

/-! ## The alerts -/

/-- A field of an embed. -/
structure EmbedField where
  name : String
  value : String
  isInline : Bool := true
  deriving DecidableEq

/-- What is posted: to Discord a message with one embed, to Telegram a text for a chat. -/
inductive Payload where
  | discord (username content title : String) (color : Nat) (fields : List EmbedField)
  | telegram (chatId text : String)
  deriving DecidableEq

/-- `requests.post` of a payload to a URL: whether it returned. -/
abbrev Post := String → Payload → Bool

/-- What one channel adds to the report, and what was posted for it. -/
structure Contact where
  notified : List String
  unconfigured : List String
  posts : List (String × Payload)
  deriving DecidableEq

/-- A channel: with a target it is contacted, and notified if the post returns. -/
def contact (post : Post) (channel : String) (target : Option (String × Payload)) : Contact :=
  match target with
  | some (url, payload) =>
    { notified := if post url payload then [channel] else []
      unconfigured := []
      posts := [(url, payload)] }
  | none => { notified := [], unconfigured := [channel ++ " (not_configured)"], posts := [] }

/-- The message for Discord. -/
def discordPayload (incidentProof : IncidentProof) : Payload :=
  let bundleStr := Python.orDefault "" incidentProof.jitoBundleHash "N/A (JITO_DRY_RUN)"
  .discord "Solana Guardian Agent (HFT Alert)"
    ("🚨 **CRITICAL DEFENSE ACTIVATED: Asset " ++ incidentProof.isolatedAsset ++ " paused in " ++
      Python.strRounded incidentProof.totalEndToEndLatencyMs ++ " ms!**")
    ("Incident " ++ incidentProof.incidentId) 15158332
    [{ name := "Preserved TVL"
       value := "$" ++ Python.formatGrouped incidentProof.capitalPreservedUsd },
      { name := "Jito Bundle", value := "`" ++ bundleStr ++ "`" },
      { name := "Recovery Authority", value := incidentProof.unfreezeMechanism }]

/-- The message for Telegram. -/
def telegramPayload (chatId : String) (incidentProof : IncidentProof) : Payload :=
  .telegram chatId ("🚨 SOLANA GUARDIAN DEFENSE: Asset " ++ incidentProof.isolatedAsset ++
    " paused in " ++ Python.strRounded incidentProof.totalEndToEndLatencyMs ++ " ms.")

/-- Discord: a webhook with a URL, and the message for it. -/
def IncidentNotifier.discordTarget (notifier : IncidentNotifier) (incidentProof : IncidentProof) :
    Option (String × Payload) :=
  match notifier.discordWebhook with
  | some url =>
    if url.startsWith "http" then some (url, discordPayload incidentProof) else none
  | none => none

/-- Telegram: a token and a chat, and the message for it. -/
def IncidentNotifier.telegramTarget (notifier : IncidentNotifier) (incidentProof : IncidentProof) :
    Option (String × Payload) :=
  let token := notifier.telegramToken.getD ""
  let chat := notifier.telegramChat.getD ""
  if token ≠ "" ∧ chat ≠ "" then
    some ("https://api.telegram.org/bot" ++ token ++ "/sendMessage",
      telegramPayload chat incidentProof)
  else none

inductive AlertStatus where
  | dispatched | loggedOnly
  deriving DecidableEq, Repr

/-- What `dispatch_alerts` returns. -/
structure AlertReport where
  status : AlertStatus
  channelsNotified : List String
  channelsUnconfigured : List String
  incidentId : String
  deriving DecidableEq

/-- `dispatch_alerts`, with what it posted. -/
def IncidentNotifier.dispatchAlerts (notifier : IncidentNotifier) (post : Post)
    (incidentProof : IncidentProof) : AlertReport × List (String × Payload) :=
  let discord := contact post "Discord" (notifier.discordTarget incidentProof)
  let telegram := contact post "Telegram" (notifier.telegramTarget incidentProof)
  let dispatchedChannels := discord.notified ++ telegram.notified
  let unconfiguredChannels := discord.unconfigured ++ telegram.unconfigured ++
    ["PagerDuty (not_configured)", "Slack (not_configured)"]
  ({ status := if dispatchedChannels.isEmpty then .loggedOnly else .dispatched
     channelsNotified := dispatchedChannels
     channelsUnconfigured := unconfiguredChannels
     incidentId := incidentProof.incidentId },
    discord.posts ++ telegram.posts)

/-! ## Every channel is accounted for -/

inductive Channel where
  | discord | telegram | pagerDuty | slack
  deriving DecidableEq, Repr

/-- The channels, in the order of the report. -/
def channels : List Channel := [.discord, .telegram, .pagerDuty, .slack]

def Channel.name : Channel → String
  | .discord => "Discord"
  | .telegram => "Telegram"
  | .pagerDuty => "PagerDuty"
  | .slack => "Slack"

/-- Where a channel is contacted, and with what. Two of them never are. -/
def IncidentNotifier.target (notifier : IncidentNotifier) (incidentProof : IncidentProof) :
    Channel → Option (String × Payload)
  | .discord => notifier.discordTarget incidentProof
  | .telegram => notifier.telegramTarget incidentProof
  | .pagerDuty => none
  | .slack => none

/-- The post for a target returned. -/
def Delivered (post : Post) (target : Option (String × Payload)) : Bool :=
  target.any fun t => post t.1 t.2

/-- What one channel adds. -/
theorem contact_eq (post : Post) (channel : String) (target : Option (String × Payload)) :
    contact post channel target =
      { notified := if Delivered post target then [channel] else []
        unconfigured := if target.isNone then [channel ++ " (not_configured)"] else []
        posts := target.toList } := by
  cases target <;> rfl

/-- **The alerts**, for every configuration, every incident and every outcome of the posts. Each
channel with a target is contacted once, and nothing else is. The report lists the channels whose
post returned and those without a target; the four are these and the ones whose post raised. It says
that the incident was dispatched exactly if some post returned. -/
theorem alerts_account (notifier : IncidentNotifier) (post : Post) (incidentProof : IncidentProof) :
    let target := notifier.target incidentProof
    let (report, posts) := notifier.dispatchAlerts post incidentProof
    posts = channels.filterMap target ∧
    report.channelsNotified = (channels.filter fun c => Delivered post (target c)).map (·.name) ∧
    report.channelsUnconfigured =
      (channels.filter fun c => (target c).isNone).map (·.name ++ " (not_configured)") ∧
    report.channelsNotified.length + report.channelsUnconfigured.length +
      (posts.filter fun p => !post p.1 p.2).length = 4 ∧
    (report.status = .dispatched ↔ ∃ p ∈ posts, post p.1 p.2 = true) := by
  intro target
  simp only [IncidentNotifier.dispatchAlerts, contact_eq]
  have hdiscord : target .discord = notifier.discordTarget incidentProof := rfl
  have htelegram : target .telegram = notifier.telegramTarget incidentProof := rfl
  have hpager : target .pagerDuty = none := rfl
  have hslack : target .slack = none := rfl
  rw [← hdiscord, ← htelegram]
  -- Two targets, and the outcome of the post for each.
  rcases hd : target .discord with _ | d <;> rcases ht : target .telegram with _ | t
  · simp [channels, Delivered, Channel.name, hd, ht, hpager, hslack]
  · cases hpost : post t.1 t.2 <;>
      simp [channels, Delivered, Channel.name, hd, ht, hpager, hslack, hpost]
  · cases hpost : post d.1 d.2 <;>
      simp [channels, Delivered, Channel.name, hd, ht, hpager, hslack, hpost]
  · cases hpost : post d.1 d.2 <;> cases hpost' : post t.1 t.2 <;>
      simp [channels, Delivered, Channel.name, hd, ht, hpager, hslack, hpost, hpost']

/-! ## The identifier -/

/-- The text of a number that is not negative has no minus. -/
theorem minus_not_mem_repr {n : ℤ} (h : 0 ≤ n) : '-' ∉ n.repr.toList := by
  intro hmem
  rw [Int.repr_eq_if, if_pos h, Nat.toList_repr] at hmem
  have hdigit : Char.isDigit '-' = true :=
    Nat.isDigit_of_mem_toDigits (by decide) (by decide) hmem
  cases hdigit

/-- **Identifiers** of two incidents, whatever their slots: they are equal exactly if the slots are
and the clock readings are of one second. -/
theorem incidentId_iff (slot₁ slot₂ : Option ℤ) (t₁ t₂ : ℚ) (h₁ : 0 ≤ t₁) (h₂ : 0 ≤ t₂) :
    incidentId slot₁ t₁ = incidentId slot₂ t₂ ↔ slot₁ = slot₂ ∧ ⌊t₁⌋ = ⌊t₂⌋ := by
  unfold incidentId
  rw [Python.int_of_nonneg h₁, Python.int_of_nonneg h₂, Int.toString_eq_repr, Int.toString_eq_repr]
  constructor
  · intro h
    have htext := congrArg String.toList h
    simp only [String.toList_append, List.append_assoc, List.append_right_inj] at htext
    obtain ⟨hslot, hsecond⟩ := append_separator_inj (minus_not_mem_repr (Int.floor_nonneg.mpr h₁))
      (minus_not_mem_repr (Int.floor_nonneg.mpr h₂)) htext
    exact ⟨slotText_injective (String.toList_injective hslot),
      Int.repr_injective (String.toList_injective hsecond)⟩
  · rintro ⟨rfl, hsecond⟩
    rw [hsecond]

/-- Two incidents within a second, on a cluster that could not be polled. -/
theorem incidentId_sample : incidentId none (3 / 2) = incidentId none (7 / 4) :=
  (incidentId_iff none none (3 / 2) (7 / 4) (by norm_num) (by norm_num)).mpr
    ⟨rfl, by norm_num [Int.floor_eq_iff]⟩

/-! ## What the messages tell -/

/-- An incident proof of the pipeline: on a simulation that returned. -/
def Reported (incidentProof : IncidentProof) : Prop :=
  ∃ slot asset detection poolState verdict simulation bundle latency now now',
    simulateEmergencyPause poolState verdict = .ok simulation ∧
    incidentProof = generateIncidentProof slot asset detection simulation bundle latency now now'

/-- Latency and capital are rounded. -/
theorem Reported.rounded {incidentProof : IncidentProof} (h : Reported incidentProof) :
    (∃ x, incidentProof.totalEndToEndLatencyMs = Python.round x 2) ∧
      (∃ y, incidentProof.capitalPreservedUsd = Python.round y 2) ∧
      incidentProof.unfreezeMechanism = "SQUADS_MULTISIG_REQUIRED" := by
  obtain ⟨slot, asset, detection, poolState, verdict, simulation, bundle, latency, now, now', hsim,
    rfl⟩ := h
  have hpool : poolState.availableLiquidityUsd.getD 32500000 ≠ 0 := by
    intro hzero
    rw [simulateEmergencyPause, hzero] at hsim
    cases hsim
  obtain ⟨simulation', hsim', -, hcapital, -⟩ := simulateEmergencyPause_ok hpool verdict
  rw [hsim] at hsim'
  cases hsim'
  exact ⟨⟨latency, rfl⟩, ⟨_, hcapital⟩, rfl⟩

/-- The asset and the latency are read from the end of an announcement. -/
theorem announcement_inj {opening asset₁ asset₂ : String} {x y : ℚ}
    (h : opening ++ asset₁ ++ " paused in " ++ Python.strRounded (Python.round x 2) =
      opening ++ asset₂ ++ " paused in " ++ Python.strRounded (Python.round y 2)) :
    asset₁ = asset₂ ∧ Python.round x 2 = Python.round y 2 := by
  have htext := congrArg String.toList h
  have hword : (" paused in ").toList = " paused in".toList ++ [' '] := by decide
  simp only [String.toList_append, hword, List.append_assoc, List.append_right_inj,
    List.singleton_append] at htext
  rw [← List.append_assoc, ← List.append_assoc] at htext
  obtain ⟨hasset, hlatency⟩ := append_separator_inj (Python.strRounded_no_blank _)
    (Python.strRounded_no_blank _) htext
  exact ⟨String.toList_injective (List.append_cancel_right hasset),
    (Python.strRounded_round_iff x y).mp (String.toList_injective hlatency)⟩

/-- **What the alerts tell** of two incidents of the pipeline: their Discord messages are equal exactly if
the incidents have one identifier, asset, latency, preserved capital and bundle, and their Telegram
messages exactly if they have one asset and latency. -/
theorem alerts_tell (chatId : String) (p q : IncidentProof) (hp : Reported p) (hq : Reported q) :
    (discordPayload p = discordPayload q ↔
      p.incidentId = q.incidentId ∧ p.isolatedAsset = q.isolatedAsset ∧
      p.totalEndToEndLatencyMs = q.totalEndToEndLatencyMs ∧
      p.capitalPreservedUsd = q.capitalPreservedUsd ∧
      Python.orDefault "" p.jitoBundleHash "N/A (JITO_DRY_RUN)" =
        Python.orDefault "" q.jitoBundleHash "N/A (JITO_DRY_RUN)") ∧
    (telegramPayload chatId p = telegramPayload chatId q ↔
      p.isolatedAsset = q.isolatedAsset ∧
      p.totalEndToEndLatencyMs = q.totalEndToEndLatencyMs) := by
  obtain ⟨⟨x, hx⟩, ⟨a, ha⟩, hpauth⟩ := hp.rounded
  obtain ⟨⟨y, hy⟩, ⟨b, hb⟩, hqauth⟩ := hq.rounded
  constructor
  · constructor
    · intro h
      simp only [discordPayload, Payload.discord.injEq, List.cons.injEq, EmbedField.mk.injEq,
        and_true, true_and, String.append_right_inj, String.append_left_inj] at h
      obtain ⟨hcontent, hid, hcapital, hbundle, -⟩ := h
      rw [hx, hy] at hcontent
      rw [ha, hb, Python.formatGrouped_round_iff, ← ha, ← hb] at hcapital
      obtain ⟨hasset, hlatency⟩ := announcement_inj hcontent
      exact ⟨hid, hasset, by rw [hx, hy, hlatency], hcapital, hbundle⟩
    · rintro ⟨hid, hasset, hlatency, hcapital, hbundle⟩
      rw [discordPayload, discordPayload, hid, hasset, hlatency, hcapital, hbundle, hpauth, hqauth]
  · constructor
    · intro h
      simp only [telegramPayload, Payload.telegram.injEq, true_and, String.append_left_inj] at h
      rw [hx, hy] at h ⊢
      exact announcement_inj h
    · rintro ⟨hasset, hlatency⟩
      rw [telegramPayload, telegramPayload, hasset, hlatency]

/-- An incident at one moment, by what the detector found. -/
def sampleIncident (found : Detector.Scan) (simulation : Simulation) : IncidentProof :=
  generateIncidentProof none "USDC" (Detector.compoundVerdict (5 / 100) found [] none) simulation
    ((Executor.init {}).dispatchEmergencyBundle sampleDigest {} "USDC" none 0 false) 26 0 0

/-- An attack is announced in the words for a batch in which nothing was found. -/
theorem alerts_tell_sample : ∃ p q, p.threatLevel ≠ q.threatLevel ∧
    telegramPayload "guardian" p = telegramPayload "guardian" q := by
  obtain ⟨simulation, hsim, -⟩ := @simulateEmergencyPause_ok {} (by decide +kernel) {}
  let attack : Detector.Scan := { hasFlashLoan := true, hasDrain := true, totalDrained := 7000000 }
  refine ⟨sampleIncident attack simulation, sampleIncident {} simulation, ?_,
    (alerts_tell "guardian" (sampleIncident attack simulation) (sampleIncident {} simulation)
      ⟨_, _, _, _, _, _, _, _, _, _, hsim, rfl⟩
      ⟨_, _, _, _, _, _, _, _, _, _, hsim, rfl⟩).2.mpr
        (by simp only [sampleIncident, generateIncidentProof, and_self])⟩
  show (Detector.compoundVerdict (5 / 100) attack [] none).threatLevel ≠
    (Detector.compoundVerdict (5 / 100) {} [] none).threatLevel
  decide +kernel

end Response
end SolanaGuardian
