import LndkFormal.Daemon.Startup
import LndkFormal.Offers.ReplyPaths
import LndkFormal.Server.Amounts
import LndkFormal.Server.CreateOffer
import LndkFormal.System.Tasks

/-!
# Offers across restarts

LNDK stores no key: at every start it derives the key of its offers from a signature of
LND.  An offer made in one life of the daemon is therefore honoured in another one exactly
if LND's two signatures give the same seed.
-/

set_option autoImplicit false

namespace LndkFormal.Daemon

open LndkFormal.Async
open LndkFormal.Ldk
open LndkFormal.Lnd
open LndkFormal.Offers
open LndkFormal.Server
open LndkFormal.System

section Rules

variable (ldk : Library) (contextOf : BlindedMessagePath → Option OffersContext)
  (RequestFor : Offer → InvoiceRequest → Prop)

/-- The offer is for these paths; a request for it is verified by the nonce and the key that
it was built with, and by no others. -/
structure BuiltFrom (builder : OfferBuilder) (offer : Offer) : Prop where
  paths : offer.paths = builder.paths
  verifies : ∀ request nonce key, RequestFor offer request →
    ((ldk.verifyUsingRecipientData request nonce key).isSome ↔
      nonce = builder.nonce ∧ key = builder.expandedKey)

/-- What LDK documents: a blinded path gives back the context it was made with to those who
are reached through it, and offers are verified with nonce and key. -/
def OfferRules : Event CreationSig → Prop
  | .call (.oneHopPath _ context) (some path) => contextOf path = some context
  | .call (.messagePath _ _ context) (some path) => contextOf path = some context
  | .call (.buildOffer builder) (.ok offer) => BuiltFrom ldk RequestFor builder offer
  | _ => True

def RpcRules : Event CreateOfferSig → Prop
  | .call (.inl request) reply => OfferRules ldk contextOf RequestFor (.call request reply)
  | _ => True

end Rules

section Creation

variable {ldk : Library} {contextOf : BlindedMessagePath → Option OffersContext}
  {RequestFor : Offer → InvoiceRequest → Prop}

/-- All paths that are made for an offer carry its context, and there is one at least. -/
theorem offerPaths_context {nodeId : PublicKey} {context : OffersContext}
    {trace : List (Event CreationSig)} {paths : List BlindedMessagePath}
    (run : Reaches (createReplyPathForOfferCreation ldk nodeId context) trace (.ret (.ok paths)))
    (rules : ∀ event ∈ trace, OfferRules ldk contextOf RequestFor event) :
    paths ≠ [] ∧ ∀ path ∈ paths, contextOf path = some context := by
  obtain ⟨channels, built⟩ := offerPaths_of_reaches run
  cases built with
  | oneHop found =>
      refine ⟨by simp, ?_⟩
      intro path here
      rw [List.mem_singleton] at here
      rw [here]
      exact rules _ (List.mem_append_right _ (.head _))
  | @through asked built nodes order paths found nonempty build =>
      have each := buildPaths_built build
      constructor
      · intro none
        have same := each.length_eq
        rw [none, order.2.length_eq] at same
        exact nonempty (List.eq_nil_of_length_eq_zero same)
      · intro path here
        obtain ⟨place, bound, rfl⟩ := List.getElem_of_mem here
        have call := each.get (each.length_eq ▸ bound) bound
        exact rules _ (List.mem_append_right _ (.tail _ call))

structure KeyedOffer (ldk : Library) (contextOf : BlindedMessagePath → Option OffersContext)
    (RequestFor : Offer → InvoiceRequest → Prop) (key : ExpandedKey) (offer : Offer) : Prop where
  reachable : offer.paths ≠ []
  verifies : ∀ path ∈ offer.paths, ∃ nonce, contextOf path = some (.invoiceRequest nonce) ∧
    ∀ request other, RequestFor offer request →
      ((ldk.verifyUsingRecipientData request nonce other).isSome ↔ other = key)

theorem createOffer_keyed {args : CreateOfferArgs} {key : ExpandedKey}
    {trace : List (Event CreationSig)} {offer : Offer}
    (run : Reaches (createOffer ldk args key) trace (.ret (.ok offer)))
    (rules : ∀ event ∈ trace, OfferRules ldk contextOf RequestFor event) :
    ∃ builder, .call (.buildOffer builder) (.ok offer) ∈ trace ∧
      KeyedOffer ldk contextOf RequestFor key offer := by
  obtain ⟨nodeId, nonce, before, made, after, paths, builder, rfl, found, built, rfl, rfl, first⟩ :=
    createOffer_paths run
  obtain ⟨some_path, carried⟩ := offerPaths_context found fun event here =>
    rules event (List.mem_append_right _ (List.mem_append_left _ here))
  have listed := List.mem_append_right before (List.mem_append_right made built)
  have from_builder : BuiltFrom ldk RequestFor builder offer := rules _ listed
  have taken : offer.paths = paths.take 3 := from_builder.paths.trans first
  refine ⟨builder, listed, ?_, ?_⟩
  · rw [taken]
    cases paths with
    | nil => exact absurd rfl some_path
    | cons path rest => simp
  · intro path here
    rw [taken] at here
    refine ⟨builder.nonce, carried path (List.mem_of_mem_take here), ?_⟩
    intro request other asked
    rw [from_builder.verifies request builder.nonce other asked]
    exact and_iff_right rfl

theorem createOfferRpc_keyed {offerToString : Offer → String} {handler : OfferHandler}
    {request : CreateOfferRequest} {trace : List (Event CreateOfferSig)}
    {response : CreateOfferResponse}
    (run : Reaches (createOfferRpc ldk offerToString handler request) trace (.ret (.ok response)))
    (rules : ∀ event ∈ trace, RpcRules ldk contextOf RequestFor event) :
    ∃ builder offer, .call (.inl (.buildOffer builder)) (.ok offer) ∈ trace ∧
      response.offer = offerToString offer ∧
      KeyedOffer ldk contextOf RequestFor handler.expandedKey offer := by
  obtain ⟨network, own, offer, shown, went, lifted⟩ := createOfferRpc_returned run
  have ownRules : ∀ event ∈ own, OfferRules ldk contextOf RequestFor event := by
    intro event here
    have rule := rules _ (lifted event here)
    cases event with
    | access op reply => exact op.elim
    | call request reply => exact rule
  obtain ⟨builder, built, keyed⟩ := createOffer_keyed went ownRules
  exact ⟨builder, offer, lifted _ built, shown, keyed⟩

end Creation

/-! ## Honouring a request -/

/-- The handler has asked LND to register an invoice for the request. -/
def Honoured (request : InvoiceRequest) (task : LndkTask) : Prop :=
  ∃ reply, .call (.addInvoice (lndInvoice request)) reply ∈ task.log

theorem honoured_iff {ldk : Library} {handler : OfferHandler} {guard : LndkGuard}
    {labels : List LndkLabel} {pool : LndkPool}
    (run : Run (lndk ldk handler) .new guard labels pool) (client : handler.client = true)
    {i : Nat} {task : LndkTask} (found : pool.tasks[i]? = some task) {request : InvoiceRequest}
    {nonce : Nonce} {responder : Responder}
    (asked : task.request = .handleMessage (.invoiceRequest request)
      (some (.invoiceRequest nonce)) (some responder))
    (ended : ¬ task.prog.Running) :
    Honoured request task ↔
      (ldk.verifyUsingRecipientData request nonce handler.expandedKey).isSome := by
  have went := run.task_reaches found
  obtain ⟨_, log, prog⟩ := task
  subst asked
  simp only [lndk, start, handleMessage, handleInvoiceRequest, client, if_true] at went
  cases accepted : ldk.verifyUsingRecipientData request nonce handler.expandedKey with
  | none =>
      simp only [accepted] at went
      have unasked : log = [] := went.of_ret
      simp [Honoured, unasked]
  | some verified =>
      simp only [accepted] at went
      refine iff_of_true ?_ rfl
      rcases reaches_request_cases went with unasked | ⟨reply, later, logged, _⟩
      · subst unasked
        cases went
        exact absurd trivial ended
      · exact ⟨reply, logged ▸ .head _⟩

/-- An offer that was made in one life of the daemon is honoured in another one exactly if
LND's signatures give the same seed in both. -/
theorem offers_survive_restart (parts : StartParts) (offerToString : Offer → String)
    (contextOf : BlindedMessagePath → Option OffersContext)
    (RequestFor : Offer → InvoiceRequest → Prop) (config config' : Config)
    (booted booted' : List (Event StartSig)) (ready ready' : Ready)
    (first : Reaches (startUp parts config) booted (.ret (.ok ready)))
    (second : Reaches (startUp parts config') booted' (.ret (.ok ready')))
    (request : CreateOfferRequest) (created : List (Event CreateOfferSig))
    (response : CreateOfferResponse)
    (made : Reaches (createOfferRpc parts.ldk offerToString ready.server.offerHandler request)
      created (.ret (.ok response)))
    (rules : ∀ event ∈ created, RpcRules parts.ldk contextOf RequestFor event) :
    ∃ builder offer signature signature',
      .call (.inl (.buildOffer builder)) (.ok offer) ∈ created ∧
      response.offer = offerToString offer ∧ offer.paths ≠ [] ∧
      .call (.signMessage seedRequest) (.ok signature) ∈ booted ∧
      .call (.signMessage seedRequest) (.ok signature') ∈ booted' ∧
      ∀ (guard : LndkGuard) (labels : List LndkLabel) (pool : LndkPool),
        Run (lndk parts.ldk ready'.server.offerHandler) .new guard labels pool →
        ∀ (i : Nat) (task : LndkTask) (asked : InvoiceRequest) (path : BlindedMessagePath)
          (responder : Responder), pool.tasks[i]? = some task → RequestFor offer asked →
          path ∈ offer.paths →
          task.request = .handleMessage (.invoiceRequest asked) (contextOf path) (some responder) →
          ¬ task.prog.Running →
          (Honoured asked task ↔ parts.sha256 signature' = parts.sha256 signature) := by
  obtain ⟨signature, signed, key, _⟩ := startUp_keyed first
  obtain ⟨signature', signed', key', client'⟩ := startUp_keyed second
  obtain ⟨builder, offer, built, shown, keyed⟩ := createOfferRpc_keyed made rules
  refine ⟨builder, offer, signature, signature', built, shown, keyed.reachable, signed, signed',
    ?_⟩
  intro guard labels pool run i task asked path responder found belongs here reached ended
  obtain ⟨nonce, carried, verifies⟩ := keyed.verifies path here
  rw [carried] at reached
  rw [honoured_iff run client' found reached ended, verifies asked _ belongs, key, key']
  exact ExpandedKey.mk.injEq _ _ ▸ Iff.rfl

def keyedLibrary : Library :=
  { Library.plain .twoPaths with
    verifyUsingRecipientData := fun request nonce key =>
      if nonce = ⟨0⟩ ∧ key = ⟨1⟩ then some ⟨request⟩ else none }

def countingParts : StartParts :=
  ⟨keyedLibrary, fun bytes => BitVec.ofNat 256 bytes.length, fun _ => true, fun _ => true,
    fun _ => true⟩

def sampleConfig : Config where
  address := ""
  certPath := none
  certPem := some ""
  tlsIp := none
  macaroonPath := none
  macaroonHex := some ""
  dataDir := some ""
  logFile := none
  logLevel := none
  grpcHost := none
  grpcPort := none
  skipVersionCheck := false
  responseInvoiceTimeout := none
  rateLimitCount := 10
  rateLimitPeriodSecs := 1

def obliging : (call : StartCall) → call.Reply
  | .homeDir => some ""
  | .createDirAll _ => .ok ()
  | .initLogger _ => .ok ()
  | .registerSignal _ => .ok ()
  | .connectLnd _ => .ok ()
  | .getInfo => .ok ⟨⟨"", []⟩, []⟩
  | .getVersion => .error (.unknown "")
  | .readToString _ => .ok ""
  | .generateTlsCreds _ _ => .ok ()
  | .readTls _ => .ok ⟨"", ""⟩
  | .signMessage _ => .ok [7]

def sampleBoot : List (Event StartSig) × Prog StartSig (Except StartError Ready) :=
  (startUp countingParts sampleConfig).play (fun op => op.elim) (List.replicate 10 obliging)

def sampleReady : Ready where
  server := ⟨newOfferHandler none 1, .repeated 2, "", ""⟩
  identity := ⟨"", ""⟩
  addr := sampleConfig.addr
  args := ⟨⟨"", .string "" ""⟩, false, 10, 1⟩

theorem sampleBoot_reaches :
    Reaches (startUp countingParts sampleConfig) sampleBoot.1 (.ret (.ok sampleReady)) := by
  have run : Reaches (startUp countingParts sampleConfig) sampleBoot.1 sampleBoot.2 :=
    Prog.play_reaches _ _ _
  have ended : sampleBoot.2 = .ret (.ok sampleReady) := by with_unfolding_all rfl
  rw [ended] at run
  exact run

theorem sampleBoot_signed {signature : List UInt8}
    (signed : .call (.signMessage seedRequest) (.ok signature) ∈ sampleBoot.1) :
    signature = [7] := by
  have seven : ∀ (call : StartCall) (signature : List UInt8),
      (.call call (obliging call) : Event StartSig) =
        .call (.signMessage seedRequest) (.ok signature) → signature = [7] := by
    intro call signature same
    cases call <;> cases same
    rfl
  have all : ∀ event ∈ sampleBoot.1, ∀ signature,
      event = .call (.signMessage seedRequest) (.ok signature) → signature = [7] :=
    Prog.play_forall (fun op : Empty => op.elim) seven 10 _
  exact all _ signed signature rfl

/-- A node without channels whose paths carry the context of the nonce. -/
def keyedReplies : (request : CreateOfferSig.Call) → CreateOfferSig.CallReply request
  | .inl (.oneHopPath recipient context) =>
      if context = .invoiceRequest ⟨0⟩ then some (.through recipient) else none
  | .inl (.messagePath _ _ _) => none
  | .inl (.buildOffer builder) =>
      if builder.nonce = ⟨0⟩ ∧ builder.expandedKey = ⟨1⟩ then
        .ok { Offer.atIssuer with paths := builder.paths }
      else .error ⟨"unexpected"⟩
  | request => sampleReplies request

def carried : BlindedMessagePath → Option OffersContext := fun _ => some (.invoiceRequest ⟨0⟩)

theorem keyedReplies_rules (request : CreateOfferSig.Call) :
    RpcRules keyedLibrary carried (fun _ _ => True) (.call request (keyedReplies request)) := by
  cases request with
  | inr connection => trivial
  | inl request =>
      cases request with
      | oneHopPath recipient context =>
          by_cases same : context = .invoiceRequest ⟨0⟩
          · subst same
            exact rfl
          · have reply : keyedReplies (.inl (.oneHopPath recipient context)) = none := if_neg same
            rw [reply]
            trivial
      | buildOffer builder =>
          by_cases keyed : builder.nonce = ⟨0⟩ ∧ builder.expandedKey = ⟨1⟩
          · have reply : keyedReplies (.inl (.buildOffer builder)) =
                .ok { Offer.atIssuer with paths := builder.paths } := if_pos keyed
            rw [reply]
            refine BuiltFrom.mk rfl ?_
            intro request nonce key _
            rw [keyed.1, keyed.2]
            simp [keyedLibrary]
          · have reply : keyedReplies (.inl (.buildOffer builder)) = .error ⟨"unexpected"⟩ :=
              if_neg keyed
            rw [reply]
            trivial
      | _ => trivial

def keyedCreation : List (Event CreateOfferSig) × Prog CreateOfferSig
    (Except Status CreateOfferResponse) :=
  (createOfferRpc keyedLibrary (fun _ => "lno1") sampleReady.server.offerHandler
    (sampleRequest 3600)).play (fun op => op.elim) (List.replicate 8 keyedReplies)

theorem keyedCreation_reaches :
    Reaches (createOfferRpc keyedLibrary (fun _ => "lno1") sampleReady.server.offerHandler
      (sampleRequest 3600)) keyedCreation.1 (.ret (.ok ⟨"lno1"⟩)) := by
  have run : Reaches (createOfferRpc keyedLibrary (fun _ => "lno1")
      sampleReady.server.offerHandler (sampleRequest 3600)) keyedCreation.1 keyedCreation.2 :=
    Prog.play_reaches _ _ _
  have ended : keyedCreation.2 = .ret (.ok ⟨"lno1"⟩) := by with_unfolding_all rfl
  rw [ended] at run
  exact run

/-- The second life is asked for an invoice, and LND does not register one. -/
def restartedPool : List LndkLabel × LndkPool :=
  schedule (lndk keyedLibrary sampleReady.server.offerHandler)
    [.spawn (.handleMessage (.invoiceRequest (itemsRequest none none))
      (some (.invoiceRequest ⟨0⟩)) (some someResponder)), .act 0 Call.refused]
    ([], ⟨.new, []⟩)

theorem offers_survive_restart_sameNode :
    ∃ task, restartedPool.2.tasks[0]? = some task ∧ Honoured (itemsRequest none none) task := by
  obtain ⟨_, offer, signature, signature', _, _, reachable, signed, signed', honoured⟩ :=
    offers_survive_restart countingParts (fun _ => "lno1") carried (fun _ _ => True) sampleConfig
      sampleConfig _ _ sampleReady sampleReady sampleBoot_reaches sampleBoot_reaches
      (sampleRequest 3600) keyedCreation.1 ⟨"lno1"⟩ keyedCreation_reaches
      (Prog.play_forall (fun op : Empty => op.elim) keyedReplies_rules 8 _)
  have run : Run (lndk keyedLibrary sampleReady.server.offerHandler) .new anyStep
      restartedPool.1 restartedPool.2 := schedule_run _ .start (permitted_anyStep _ _)
  obtain ⟨path, here⟩ := List.exists_mem_of_ne_nil _ reachable
  refine ⟨_, rfl, (honoured anyStep _ _ run 0 _ _ path someResponder rfl trivial here rfl ?_).mpr
    ?_⟩
  · exact id
  · rw [sampleBoot_signed signed, sampleBoot_signed signed']

end LndkFormal.Daemon
