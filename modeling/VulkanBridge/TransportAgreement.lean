import VulkanBridge.SealedStreams
import VulkanBridge.StrictService

/-!
The strict and the shared transport make the same native calls of one list of
calls: each request is answered with the calls the record of its command is
replayed with.
-/

namespace VulkanBridge

open ByteBuffer CheckedLoops

namespace CommandBufferProxy

variable {proxy : CommandBufferProxy} {diagnostics : Bool}

theorem recordStrict_wireId (surroundings : Surroundings) (call : ClientCall) :
    (proxy.recordStrict diagnostics surroundings call).1.wireId = proxy.wireId := by
  rcases recordStrict_proxy surroundings call with same | stored
  · rw [same]
  · rw [stored]
    rfl

/-- A call in the strict transport is at most one exchange, and then its request
carries the command. -/
theorem recordStrict_exchanges (surroundings : Surroundings) (call : ClientCall) :
    (proxy.recordStrict diagnostics surroundings call).2 = [] ∨
      ∃ command exchange, call.command = some command ∧
        (proxy.recordStrict diagnostics surroundings call).2 = [exchange] ∧
        exchange.request.Encodes proxy.wireId command := by
  simp only [recordStrict]
  split
  · exact .inl rfl
  rename_i command made
  split
  · exact .inl rfl
  · exact .inl rfl
  rename_i request encoded
  split
  · exact .inl rfl
  · exact .inr ⟨command, _, made, rfl, strictRequest_encodes (ClientCall.command_recordable made) encoded⟩

def Exchanged (commandBufferId : UInt64) : List Exchange → List Command → Prop :=
  List.Forall₂ fun exchange command => exchange.request.Encodes commandBufferId command

/-- A run makes no more exchanges than calls, and with one for each call the
requests carry the commands of the calls. -/
theorem strictRun_exchanges (calls : List RecordedCall) (earlier : List Exchange) :
    ∃ later, Runs.final (strictStep diagnostics) (proxy, earlier) calls =
        ((Runs.final (strictStep diagnostics) (proxy, earlier) calls).1, earlier ++ later) ∧
      later.length ≤ calls.length ∧
      (later.length = calls.length → ∃ commands,
        calls.map (fun recorded => recorded.call.command) = commands.map some ∧
        Exchanged proxy.wireId later commands) := by
  induction calls generalizing proxy earlier with
  | nil =>
      refine ⟨[], ?_, Nat.le_refl _, fun _ => ⟨[], rfl, .nil⟩⟩
      rw [List.append_nil]
      rfl
  | cons recorded rest ih =>
      have sameId : (proxy.recordStrict diagnostics recorded.surroundings recorded.call).1.wireId =
          proxy.wireId := recordStrict_wireId _ _
      obtain ⟨later, final, few, all⟩ := @ih
        (proxy.recordStrict diagnostics recorded.surroundings recorded.call).1
        (earlier ++ (proxy.recordStrict diagnostics recorded.surroundings recorded.call).2)
      rw [sameId] at all
      rw [Runs.final, List.foldl_cons]
      refine ⟨(proxy.recordStrict diagnostics recorded.surroundings recorded.call).2 ++ later, ?_, ?_⟩
      · rw [← List.append_assoc]
        exact final
      rcases @recordStrict_exchanges proxy diagnostics recorded.surroundings recorded.call with
        none | ⟨command, exchange, made, one, encodes⟩
      · rw [none, List.nil_append]
        constructor
        · exact Nat.le_succ_of_le few
        · intro full
          rw [List.length_cons] at full
          omega
      · rw [one, List.singleton_append, List.length_cons, List.length_cons]
        constructor
        · omega
        · intro full
          obtain ⟨commands, same, exchanged⟩ := all (by omega)
          refine ⟨command :: commands, ?_, .cons encodes exchanged⟩
          rw [List.map_cons, List.map_cons, made, same]

theorem resultRequest_exchanges (exchange : ProtocolRequest → Except Errno ProtocolResponse)
    (request : ProtocolRequest) :
    (resultRequest exchange request).2 = [] ∨
      ∃ response, (resultRequest exchange request).2 = [⟨request, response⟩] := by
  simp only [resultRequest]
  split
  · exact .inl rfl
  · exact .inr ⟨_, rfl⟩

def BeginsWith (commandBufferId : UInt64) (flags : UInt32) (request : ProtocolRequest) : Prop :=
  request.opcode = .commandBufferBegin ∧ request.payloadLength = 16 ∧
    decodeCommandBufferBeginRequest request.payload = .ok ⟨commandBufferId, flags⟩

def EndsWith (commandBufferId : UInt64) (request : ProtocolRequest) : Prop :=
  request.opcode = .commandBufferEnd ∧ request.payloadLength = 8 ∧
    decodeCommandBufferId request.payload = .ok commandBufferId

theorem beginStrict_exchanges (exchange : ProtocolRequest → Except Errno ProtocolResponse)
    (info : Option (Chained BeginInfo)) :
    (proxy.beginStrict exchange info).2.2 = [] ∨ ∃ flags answered, supportedBegin info = some flags ∧
      (proxy.beginStrict exchange info).2.2 = [answered] ∧
      BeginsWith proxy.wireId flags answered.request := by
  simp only [beginStrict]
  split
  · exact .inl rfl
  rename_i flags supported
  split
  · exact .inl rfl
  rename_i payload encoded
  rcases resultRequest_exchanges exchange ⟨.commandBufferBegin, payload, 16⟩ with none | ⟨response, one⟩
  · exact .inl none
  · exact .inr ⟨flags, _, supported, one, rfl, rfl, decode_encode_begin encoded⟩

theorem endStrict_exchanges (exchange : ProtocolRequest → Except Errno ProtocolResponse) :
    (proxy.endStrict exchange).2 = [] ∨
      ∃ answered, (proxy.endStrict exchange).2 = [answered] ∧ EndsWith proxy.wireId answered.request := by
  simp only [endStrict]
  split
  · exact .inl rfl
  split
  · exact .inl rfl
  rename_i payload encoded
  rcases resultRequest_exchanges exchange ⟨.commandBufferEnd, payload, 8⟩ with none | ⟨response, one⟩
  · exact .inl none
  · exact .inr ⟨_, one, rfl, rfl, decode_encode_id encoded⟩

theorem strictRun_wireId (calls : List RecordedCall) (earlier : List Exchange) :
    (Runs.final (strictStep diagnostics) (proxy, earlier) calls).1.wireId = proxy.wireId := by
  induction calls generalizing proxy earlier with
  | nil => rfl
  | cons recorded rest ih => exact (ih _).trans (recordStrict_wireId _ _)

end CommandBufferProxy

namespace Recording

variable {recording : Recording} {diagnostics : Bool} {proxy : CommandBufferProxy}

open CommandBufferProxy

theorem strict_exchanges {result : VulkanResult} {exchanges : List Exchange}
    (ran : recording.strict diagnostics proxy = (result, exchanges))
    (each : exchanges.length = recording.calls.length + 2) :
    ∃ flags begun commands answered ended, supportedBegin recording.info = some flags ∧
      recording.Makes commands ∧ exchanges = begun :: (answered ++ [ended]) ∧
      BeginsWith proxy.wireId flags begun.request ∧ Exchanged proxy.wireId answered commands ∧
      EndsWith proxy.wireId ended.request := by
  simp only [strict, Prod.mk.injEq] at ran
  obtain ⟨_, rfl⟩ := ran
  obtain ⟨sameId, _⟩ := proxy.beginStrict_wireId recording.beginExchange recording.info
  have begins := @beginStrict_exchanges proxy recording.beginExchange recording.info
  generalize proxy.beginStrict recording.beginExchange recording.info = opened at *
  obtain ⟨began, opened, first⟩ := opened
  simp only at sameId begins each ⊢
  obtain ⟨later, final, few, all⟩ := @strictRun_exchanges opened diagnostics recording.calls []
  have lastId := @strictRun_wireId opened diagnostics recording.calls []
  have ends := @endStrict_exchanges (Runs.final (strictStep diagnostics) (opened, []) recording.calls).1
    recording.endExchange
  rw [recordAllStrict, final] at each ⊢
  generalize (Runs.final (strictStep diagnostics) (opened, []) recording.calls).1 = last at *
  simp only [List.nil_append, List.length_append] at each ⊢
  rw [lastId, sameId] at ends
  rw [sameId] at all
  rcases begins with none | ⟨flags, begun, supported, one, begins⟩
  · rcases ends with nothing | ⟨ended, alone, _⟩
    · rw [none, nothing] at each
      simp only [List.length_nil] at each
      omega
    · rw [none, alone] at each
      simp only [List.length_nil, List.length_singleton] at each
      omega
  rcases ends with nothing | ⟨ended, alone, ends⟩
  · rw [one, nothing] at each
    simp only [List.length_nil, List.length_singleton] at each
    omega
  · rw [one, alone] at each ⊢
    simp only [List.length_singleton] at each
    obtain ⟨commands, makes, exchanged⟩ := all (by omega)
    refine ⟨flags, begun, commands, later, ended, supported, makes, ?_, begins, exchanged, ends⟩
    rw [List.append_assoc, List.singleton_append]

end Recording

namespace ServiceContext

variable {driver : NativeDriver} {context : ServiceContext} {commandBufferId : UInt64}

theorem replayStreamCommand_of_render {record : CommandRecord} {calls : List NativeCall}
    (replayed : context.replayRenderCommandRecord driver commandBufferId record = .ok calls) :
    context.replayStreamCommand driver commandBufferId record = .ok calls := by
  have whole := replayed
  simp only [replayRenderCommandRecord, bind_eq_ok] at replayed
  obtain ⟨owner, resolved, replayed⟩ := replayed
  rw [replayStreamCommand]
  split at replayed
  all_goals first
    | contradiction
    | (rename_i known
       simp only [known]
       first
         | exact whole
         | (obtain ⟨command, decoded, rest⟩ := bind_eq_ok.mp replayed
            rw [decoded]
            exact rest))

theorem replayStreamRecord_plain {record : CommandRecord} {calls trace : List NativeCall}
    (replayed : context.replayStreamCommand driver commandBufferId record = .ok calls) :
    context.replayStreamRecord driver commandBufferId trace record = (trace ++ calls, .ok ()) := by
  have notBegin : record.opcode ≠ Opcode.vulkanBegin.code := by
    intro begins
    simp [replayStreamCommand, begins, Opcode.ofCode_code] at replayed
  have notEnd : record.opcode ≠ Opcode.vulkanEnd.code := by
    intro ends
    simp [replayStreamCommand, ends, Opcode.ofCode_code] at replayed
  simp only [replayStreamRecord, notBegin, notEnd, ↓reduceIte, replayed, Replayed.issue]

theorem answerImmediateRecord_replays {request : ProtocolRequest} {command : Command}
    {calls : List NativeCall} {sequence : UInt64}
    (holds : StreamHolds request.payload request.payloadLength commandBufferId sequence [command])
    (answered : context.answerImmediateRecord driver request = .ok calls) :
    context.replayStreamCommand driver commandBufferId command.record = .ok calls := by
  obtain ⟨info, validated, named, _⟩ := holds.validates
  simp only [answerImmediateRecord, executeImmediateRecord, guarded_eq_ok, validated, ok_bind, holds.records,
    List.map_cons, List.map_nil, bind_eq_ok, named] at answered
  obtain ⟨_, _, owner, _, rendering, _, replayed⟩ := answered
  exact replayStreamCommand_of_render replayed

theorem decodes_record {command : Command} (appendable : command.encoding.appendable = true)
    (canonical : command.cleared = command) : Decodes command.record command :=
  decodes_of_ok ((commandDecode_record appendable).trans (congrArg Except.ok canonical))

theorem answerFill_replays {request : ProtocolRequest} {command : FillBufferCommand} {calls : List NativeCall}
    (appendable : (Command.fillBuffer command).encoding.appendable = true)
    (encodes : request.Encodes commandBufferId (.fillBuffer command))
    (answered : context.answerFill driver request = .ok calls) :
    context.replayStreamCommand driver commandBufferId (Command.fillBuffer command).record = .ok calls := by
  simp only [answerFill, encodes.2.2, guarded_eq_ok, ok_bind] at answered
  cases decodes_record appendable rfl with
  | fillBuffer known decoded =>
      simp only [replayStreamCommand, known, decoded, ok_bind]
      exact answered.2

theorem answerClearColorImage_replays {request : ProtocolRequest} {command : ClearColorImageCommand}
    {calls : List NativeCall} (appendable : (Command.clearColorImage command).encoding.appendable = true)
    (encodes : request.Encodes commandBufferId (.clearColorImage command))
    (answered : context.answerClearColorImage driver request = .ok calls) :
    context.replayStreamCommand driver commandBufferId (Command.clearColorImage command).record =
      .ok calls := by
  simp only [answerClearColorImage, encodes.2.2, guarded_eq_ok, ok_bind] at answered
  cases decodes_record appendable rfl with
  | clearColorImage known decoded =>
      simp only [replayStreamCommand, known, decoded, ok_bind]
      exact answered.2

theorem strictRequest_eq_request {command : BindDescriptorSetsCommand}
    (canonical : command.cleared = command) :
    command.strictRequest commandBufferId = command.request commandBufferId := by
  have sets := congrArg BindDescriptorSetsCommand.descriptorSetIds canonical
  have offsets := congrArg BindDescriptorSetsCommand.dynamicOffsets canonical
  simp only [BindDescriptorSetsCommand.cleared] at sets offsets
  simp only [BindDescriptorSetsCommand.strictRequest, BindDescriptorSetsCommand.request, sets, offsets]

theorem answerBindDescriptorSets_replays {request : ProtocolRequest} {command : BindDescriptorSetsCommand}
    {calls : List NativeCall} (appendable : (Command.bindDescriptorSets command).encoding.appendable = true)
    (canonical : command.cleared = command)
    (encodes : request.Encodes commandBufferId (.bindDescriptorSets command))
    (answered : context.answerBindDescriptorSets driver request = .ok calls) :
    context.replayStreamCommand driver commandBufferId (Command.bindDescriptorSets command).record =
      .ok calls := by
  simp only [answerBindDescriptorSets, encodes.2, ok_bind, strictRequest_eq_request canonical] at answered
  cases decodes_record appendable (congrArg Command.bindDescriptorSets canonical) with
  | bindDescriptorSets known decoded =>
      simp only [replayStreamCommand, known, decoded, ok_bind]
      exact answered

theorem answerCalls_success {trace : List NativeCall} {made : Except Errno (List NativeCall)}
    (success : (answerCalls trace made).2.status.isNone = true) :
    ∃ calls, made = .ok calls ∧ (answerCalls trace made).1 = trace ++ calls := by
  cases made with
  | error code => contradiction
  | ok calls => exact ⟨calls, rfl, rfl⟩

/-- A command whose request the service answered with success is replayed with
the calls of the answer. -/
theorem answer_replays {request : ProtocolRequest} {command : Command} {trace : List NativeCall}
    (appendable : command.encoding.appendable = true) (canonical : command.cleared = command)
    (encodes : request.Encodes commandBufferId command)
    (success : (context.answer driver trace request).2.status.isNone = true) :
    context.replayStreamRecord driver commandBufferId trace command.record =
      ((context.answer driver trace request).1, .ok ()) := by
  cases command with
  | fillBuffer command =>
      simp only [answer, encodes.1] at success ⊢
      obtain ⟨calls, made, same⟩ := answerCalls_success success
      rw [same]
      exact replayStreamRecord_plain (answerFill_replays appendable encodes made)
  | clearColorImage command =>
      simp only [answer, encodes.1] at success ⊢
      obtain ⟨calls, made, same⟩ := answerCalls_success success
      rw [same]
      exact replayStreamRecord_plain (answerClearColorImage_replays appendable encodes made)
  | bindDescriptorSets command =>
      simp only [answer, encodes.1] at success ⊢
      obtain ⟨calls, made, same⟩ := answerCalls_success success
      rw [same]
      exact replayStreamRecord_plain (answerBindDescriptorSets_replays appendable
        (Command.bindDescriptorSets.inj canonical) encodes made)
  | _ =>
      simp only [answer, encodes.1] at success ⊢
      obtain ⟨calls, made, same⟩ := answerCalls_success success
      rw [same]
      exact replayStreamRecord_plain (answerImmediateRecord_replays encodes.2 made)

theorem answer_extends (driver : NativeDriver) (context : ServiceContext) (trace : List NativeCall)
    (request : ProtocolRequest) : ∃ calls, (context.answer driver trace request).1 = trace ++ calls := by
  have calls (made : Except Errno (List NativeCall)) :
      ∃ calls, (answerCalls trace made).1 = trace ++ calls := by
    cases made with
    | error code => exact ⟨[], (List.append_nil _).symm⟩
    | ok calls => exact ⟨calls, rfl⟩
  have call (made : Except Errno NativeCall) :
      ∃ calls, (answerResult driver trace made).1 = trace ++ calls := by
    cases made with
    | error code => exact ⟨[], (List.append_nil _).symm⟩
    | ok call => exact ⟨[call], rfl⟩
  rw [answer]
  split
  · exact call _
  · exact call _
  · exact calls _
  · exact calls _
  · exact calls _
  · exact calls _

theorem answered_replays {exchanges rest : List Exchange} {commands : List Command}
    {later : List CommandRecord}
    {trace final : List NativeCall}
      (exchanged : CommandBufferProxy.Exchanged commandBufferId exchanges commands)
    (appendable : ∀ command ∈ commands, command.encoding.appendable = true)
    (canonical : ∀ command ∈ commands, command.cleared = command)
    (success : ∀ exchange ∈ exchanges, exchange.succeeded = true)
    (answered : context.Answered driver trace (exchanges ++ rest) final) :
    ∃ calls, context.Answered driver (trace ++ calls) rest final ∧
      context.replayStreamRecords driver commandBufferId trace (commands.map Command.record ++ later) =
        context.replayStreamRecords driver commandBufferId (trace ++ calls) later := by
  induction exchanged generalizing trace with
  | nil =>
      refine ⟨[], ?_, ?_⟩
      · rw [List.append_nil]
        exact answered
      · rw [List.append_nil]
        rfl
  | @cons exchange command exchanges commands encodes _ ih =>
      obtain ⟨first, others⟩ := List.forall_mem_cons.mp appendable
      obtain ⟨same, alike⟩ := List.forall_mem_cons.mp canonical
      obtain ⟨succeeded, succeeding⟩ := List.forall_mem_cons.mp success
      obtain ⟨response, answered⟩ := answered
      rw [Exchange.succeeded, response] at succeeded
      have replayed := answer_replays first same encodes succeeded
      obtain ⟨own, extends_⟩ := answer_extends driver context trace exchange.request
      rw [extends_] at answered replayed
      obtain ⟨calls, ends, rest⟩ := ih others alike succeeding answered
      refine ⟨own ++ calls, ?_, ?_⟩
      · rw [← List.append_assoc]
        exact ends
      · rw [List.map_cons, List.cons_append, replayStreamRecords, replayed, ← List.append_assoc]
        exact rest

theorem answerResult_success {trace : List NativeCall} {made : Except Errno NativeCall}
    (success : (answerResult driver trace made).2.status.isNone = true) :
    ∃ call, made = .ok call ∧ (answerResult driver trace made).1 = trace ++ [call] := by
  cases made with
  | error code => contradiction
  | ok call => exact ⟨call, rfl, rfl⟩

theorem answerBegin_calls {request : ProtocolRequest} {flags : UInt32} {trace : List NativeCall}
    (begins : CommandBufferProxy.BeginsWith commandBufferId flags request)
    (success : (context.answer driver trace request).2.status.isNone = true) :
    ∃ call, context.beginCommandBuffer driver ⟨commandBufferId, flags⟩ = .ok call ∧
      (context.answer driver trace request).1 = trace ++ [call] := by
  simp only [answer, begins.1] at success ⊢
  obtain ⟨call, made, same⟩ := answerResult_success success
  simp only [answerBegin, guarded_eq_ok, begins.2.2, ok_bind] at made
  exact ⟨call, made.2, same⟩

theorem answerEnd_calls {request : ProtocolRequest} {trace : List NativeCall}
    (ends : CommandBufferProxy.EndsWith commandBufferId request)
    (success : (context.answer driver trace request).2.status.isNone = true) :
    ∃ call, context.endCommandBuffer driver commandBufferId = .ok call ∧
      (context.answer driver trace request).1 = trace ++ [call] := by
  simp only [answer, ends.1] at success ⊢
  obtain ⟨call, made, same⟩ := answerResult_success success
  simp only [answerEnd, guarded_eq_ok, ends.2.2, ok_bind] at made
  exact ⟨call, made.2, same⟩

theorem beginCommandBuffer_arguments {request : CommandBufferBeginRequest} {call : NativeCall}
    (made : context.beginCommandBuffer driver request = .ok call) :
    call.arguments = .beginCommandBuffer request.flags := by
  simp only [beginCommandBuffer, guarded_eq_ok, bind_eq_ok, pure_eq_ok] at made
  obtain ⟨_, _, _, _, _, rfl⟩ := made
  rfl

theorem endCommandBuffer_arguments {call : NativeCall}
    (made : context.endCommandBuffer driver commandBufferId = .ok call) :
    call.arguments = .endCommandBuffer := by
  simp only [endCommandBuffer, bind_eq_ok, pure_eq_ok] at made
  obtain ⟨_, _, _, _, rfl⟩ := made
  rfl

theorem replayStreamRecords_cons {record : CommandRecord} {rest : List CommandRecord}
    {trace native : List NativeCall}
    (replayed : context.replayStreamRecords driver commandBufferId trace (record :: rest) =
      (native, .ok ())) :
    ∃ middle, context.replayStreamRecord driver commandBufferId trace record = (middle, .ok ()) ∧
      context.replayStreamRecords driver commandBufferId middle rest = (native, .ok ()) := by
  rw [replayStreamRecords] at replayed
  split at replayed
  · cases replayed
  · rename_i middle first
    exact ⟨middle, first, replayed⟩

theorem issueChecked_success {trace native : List NativeCall} {made : Except Errno NativeCall}
    {call : NativeCall} (same : made = .ok call)
    (issued : Replayed.issueChecked driver trace made = (native, .ok ())) : native = trace ++ [call] := by
  subst same
  simp only [Replayed.issueChecked] at issued
  split at issued
  · cases issued
  · exact (Prod.mk.inj issued).1.symm

theorem replayStreamRecord_begin {flags : UInt32} {trace native : List NativeCall} {call : NativeCall}
    (appendable : (Command.vulkanBegin ⟨flags⟩).encoding.appendable = true)
    (made : context.beginCommandBuffer driver ⟨commandBufferId, flags⟩ = .ok call)
    (replayed : context.replayStreamRecord driver commandBufferId trace (Command.vulkanBegin ⟨flags⟩).record =
      (native, .ok ())) : native = trace ++ [call] := by
  cases decodes_record appendable rfl with
  | vulkanBegin known decoded =>
      simp only [replayStreamRecord, ← Opcode.code_of_ofCode known, ↓reduceIte, decoded, ok_bind] at replayed
      exact issueChecked_success made replayed

theorem replayStreamRecord_end {trace native : List NativeCall} {call : NativeCall}
    (made : context.endCommandBuffer driver commandBufferId = .ok call)
    (replayed : context.replayStreamRecord driver commandBufferId trace Command.vulkanEnd.record =
      (native, .ok ())) : native = trace ++ [call] := by
  have code : Command.vulkanEnd.record.opcode = Opcode.vulkanEnd.code := rfl
  have other : Opcode.vulkanEnd.code ≠ Opcode.vulkanBegin.code := by decide
  simp only [replayStreamRecord, code, other, ↓reduceIte] at replayed
  exact issueChecked_success made replayed

theorem replayCommandStream_records {bytes : Buffer} {length : Nat} {sequence deviceId : UInt64}
    {commands : List Command} {trace native : List NativeCall}
    (holds : StreamHolds bytes length commandBufferId sequence commands)
    (replayed : context.replayCommandStream driver trace bytes length deviceId = (native, .ok ())) :
    context.replayStreamRecords driver commandBufferId trace (commands.map Command.record) =
      (native, .ok ()) := by
  obtain ⟨info, validated, named, _⟩ := holds.validates
  simp only [replayCommandStream, validated, holds.records, ok_bind, named] at replayed
  cases accepted : context.validateCommandStream bytes length deviceId with
  | error code =>
      rw [accepted] at replayed
      cases replayed
  | ok =>
      rw [accepted] at replayed
      exact replayed

variable {recording other : Recording} {diagnostics traces : Bool} {proxy another sealed : CommandBufferProxy}
  {exchanges : List Exchange} {region ending : StreamRegion} {earlier final native : List NativeCall}
  {deviceId : UInt64}

/-- One list of calls makes the same native calls in both transports, from the
native begin to the native end, where the strict one sent a request for each call
and had each answered with success, and the shared one was replayed. -/
theorem transports_agree (context : ServiceContext) (driver : NativeDriver)
    (sameInfo : recording.info = other.info)
    (sameCalls : recording.calls.map RecordedCall.call = other.calls.map RecordedCall.call)
    (sameBuffer : another.wireId = proxy.wireId)
    (recorded : recording.strict diagnostics proxy = (vkSuccess, exchanges))
    (each : exchanges.length = recording.calls.length + 2)
    (success : ∀ exchange ∈ exchanges, exchange.succeeded = true)
    (answered : context.Answered driver earlier exchanges final)
    (begun : (another.beginCommandBuffer region other.info).1 = vkSuccess)
    (ended : other.shared traces another region ending = (vkSuccess, sealed))
    (replayed : context.replayCommandStream driver earlier sealed.streamBuilder.bytes
      sealed.streamLength.toNat deviceId = (native, .ok ())) :
    ∃ first middle last flags, final = earlier ++ first :: (middle ++ [last]) ∧
      native = earlier ++ first :: (middle ++ [last]) ∧
      first.arguments = .beginCommandBuffer flags ∧ last.arguments = .endCommandBuffer := by
  obtain ⟨flags, opening, commands, exchanged, closing, supported, makes, rfl, begins, each, ends⟩ :=
    Recording.strict_exchanges recorded each
  obtain ⟨same, listed, done⟩ :=
    Recording.shared_sealed (CommandBufferProxy.beginCommandBuffer_closed begun) ended
  obtain rfl : same = flags := by
    have alike := done.begins
    rw [← sameInfo, supported] at alike
    exact (Option.some.inj alike).symm
  obtain rfl : listed = commands := by
    have alike : (other.calls.map RecordedCall.call).map ClientCall.command = listed.map some := by
      rw [List.map_map]
      exact done.makes
    rw [← sameCalls, List.map_map] at alike
    exact makes_unique alike makes
  obtain ⟨_, _, built, _, _⟩ := done.finished
  have appendable := List.forall_mem_append.mp built.checked
  obtain ⟨opens, inner⟩ := List.forall_mem_cons.mp appendable.1
  have holds := done.streamHolds
  rw [done.wireId, sameBuffer] at holds
  have stream := replayCommandStream_records holds replayed
  simp only [List.map_cons, List.map_append, List.map_nil, List.cons_append] at stream
  obtain ⟨opened, beginning, stream⟩ := replayStreamRecords_cons stream
  obtain ⟨succeeded, succeeding⟩ := List.forall_mem_cons.mp success
  obtain ⟨succeeding, lastly⟩ := List.forall_mem_append.mp succeeding
  obtain ⟨response, answered⟩ := answered
  rw [Exchange.succeeded, response] at succeeded
  obtain ⟨first, made, same⟩ := answerBegin_calls begins succeeded
  obtain rfl := replayStreamRecord_begin opens made beginning
  rw [same] at answered
  obtain ⟨calls, answered, middle⟩ := answered_replays each inner
    (fun command member => (makes.recordable command member).canonical) succeeding answered
  rw [middle] at stream
  obtain ⟨closed, closes, stream⟩ := replayStreamRecords_cons stream
  obtain ⟨response, answered⟩ := answered
  have succeeded := List.forall_mem_singleton.mp lastly
  rw [Exchange.succeeded, response] at succeeded
  obtain ⟨last, finished, same⟩ := answerEnd_calls ends succeeded
  obtain rfl := replayStreamRecord_end finished closes
  rw [same] at answered
  cases stream
  refine ⟨first, calls, last, _, ?_, ?_, beginCommandBuffer_arguments made,
    endCommandBuffer_arguments finished⟩
  · rw [← answered]
    simp only [List.append_assoc, List.cons_append, List.nil_append]
  · simp only [List.append_assoc, List.cons_append, List.nil_append]

def sampleExchange (trace : List NativeCall) (request : ProtocolRequest) : Except Errno ProtocolResponse :=
  .ok (sampleContext.answer sampleDriver trace request).2

def sampleBegin : NativeCall := ⟨⟨.vkBeginCommandBuffer, .core⟩, 0xb0, .beginCommandBuffer 0⟩

def sampleScissor : NativeCall := ⟨⟨.vkCmdSetScissorWithCount, .core⟩, 0xb0, .setScissors [⟨0, 0, 1, 1⟩]⟩

def sampleEnd : NativeCall := ⟨⟨.vkEndCommandBuffer, .core⟩, 0xb0, .endCommandBuffer⟩

/-- The recording of one scissor in the strict transport. -/
def strictScissorRecording : Recording :=
  { info := scissorRecording.info
    calls := scissorRecording.calls.map fun recorded =>
      ⟨recorded.call, { recorded.surroundings with exchange := sampleExchange [sampleBegin] }⟩
    beginExchange := sampleExchange []
    endExchange := sampleExchange [sampleBegin, sampleScissor] }

theorem transports_agree_setScissor : ∃ exchanges final native sealed,
    strictScissorRecording.strict true Recording.sampleProxy = (vkSuccess, exchanges) ∧
      sampleContext.Answered sampleDriver [] exchanges final ∧
      scissorRecording.shared true Recording.sampleProxy Recording.sampleRegion Recording.sampleRegion =
        (vkSuccess, sealed) ∧
      sampleContext.replayCommandStream sampleDriver [] sealed.streamBuilder.bytes sealed.streamLength.toNat
        sampleOwner.deviceId = (native, .ok ()) ∧ native = final := by
  have recorded : strictScissorRecording.strict true Recording.sampleProxy =
      (vkSuccess, (strictScissorRecording.strict true Recording.sampleProxy).2) := rfl
  have success : ∀ exchange ∈ (strictScissorRecording.strict true Recording.sampleProxy).2,
      exchange.succeeded = true := by decide
  obtain ⟨sealed, ended⟩ : ∃ sealed, scissorRecording.shared true Recording.sampleProxy
      Recording.sampleRegion Recording.sampleRegion = (vkSuccess, sealed) := ⟨_, rfl⟩
  have replayed : sampleContext.replayCommandStream sampleDriver [] sealed.streamBuilder.bytes
      sealed.streamLength.toNat sampleOwner.deviceId = ([sampleBegin, sampleScissor, sampleEnd], .ok ()) := by
    cases ended
    rfl
  have answered : sampleContext.Answered sampleDriver []
      (strictScissorRecording.strict true Recording.sampleProxy).2
      [sampleBegin, sampleScissor, sampleEnd] := ⟨rfl, rfl, rfl, rfl⟩
  have sameInfo : strictScissorRecording.info = scissorRecording.info := rfl
  obtain ⟨_, _, _, _, strict, shared, _⟩ := transports_agree sampleContext sampleDriver sameInfo rfl rfl
    recorded rfl success answered rfl ended replayed
  exact ⟨_, _, _, sealed, recorded, answered, ended, replayed, shared.trans strict.symm⟩

end ServiceContext

end VulkanBridge
