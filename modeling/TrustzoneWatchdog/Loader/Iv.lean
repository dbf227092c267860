/-
**Which IV goes with which image?**

`bs_iv` is a file-level pointer: a load with data blocks leaves it on the registers of the engine.
`iv_arr` is a static array: twelve of its bytes are replaced by every image that is validated. Both
outlive the command, so a later one could start from what an earlier one left.

* `ivPushes`: the first transfer of each decrypt call in a trace, which is the push of its IV.
* `ivPushes_writeEvents`: the loader pushes one IV per block, in order.
* `zeroTail_after`: over every history the last four bytes of `iv_arr` are zero.
* `ivBound`: the secure header of a command is decrypted with the IV of the command's own image, the
  later blocks with the registers, and an image that validation rejects changes neither variable.
-/

import TrustzoneWatchdog.Loader.Isolation

namespace TrustzoneWatchdog.Loader

open Lib.AlarmRun

/-! ### The IV of each decrypt call -/

/-- The first transfer of each decrypt call, where it starts one. -/
def ivPushes : List Event → List (Option Transfer)
  | [] => []
  | .decrypt :: .transfer t :: rest => some t :: ivPushes rest
  | .decrypt :: rest => none :: ivPushes rest
  | _ :: rest => ivPushes rest

/-- A list that does not go on with a transfer. -/
def StartsAfresh (events : List Event) : Prop := ∀ t rest, events ≠ .transfer t :: rest

theorem ivPushes_append (before : List Event) {after : List Event} (afresh : StartsAfresh after) :
    ivPushes (before ++ after) = ivPushes before ++ ivPushes after := by
  fun_induction ivPushes before with
  | case1 => rfl
  | case2 t rest ih => simp [ivPushes, ih]
  | case3 rest noTransfer ih =>
    have still : ∀ t rest', rest ++ after ≠ .transfer t :: rest' := by
      intro t rest' same
      cases rest with
      | nil => exact afresh t rest' same
      | cons e rest =>
        rw [List.cons_append, List.cons.injEq] at same
        exact noTransfer t rest (by rw [same.1])
    rw [List.cons_append, ivPushes, ih, List.cons_append]
    exact still
  | case4 e rest _ notCall ih =>
    cases e with
    | decrypt => exact absurd rfl notCall
    | _ => exact ih

/-- Events without a decrypt call do not matter in front. -/
theorem ivPushes_skip {before : List Event} (none : Event.decrypt ∉ before) (after : List Event) :
    ivPushes (before ++ after) = ivPushes after := by
  induction before with
  | nil => rfl
  | cons e rest ih =>
    have skipped := ih fun here => none (List.mem_cons_of_mem _ here)
    cases e with
    | decrypt => exact absurd (List.mem_cons_self ..) none
    | _ => exact skipped

theorem ivPushes_eq_nil {events : List Event} (none : Event.decrypt ∉ events) :
    ivPushes events = [] := by
  rw [← List.append_nil events, ivPushes_skip none]
  rfl

/-- One decrypt call in the trace. -/
theorem ivPushes_call (sent : List Transfer) (ret : Option TeeResult) :
    ivPushes (.decrypt :: sent.map Event.transfer ++ (ret.map Event.decrypted).toList) =
      [sent.head?] := by
  have none (sent : List Transfer) : Event.decrypt ∉
      sent.map Event.transfer ++ (ret.map Event.decrypted).toList := by
    cases ret <;> simp
  cases sent with
  | nil => cases ret <;> rfl
  | cons t sent =>
    show some t :: ivPushes (sent.map Event.transfer ++ (ret.map Event.decrypted).toList) = [some t]
    rw [ivPushes_eq_nil (none sent)]

section Blocks

variable (board : Board) (img : Image) (env : CmdEnv)

/-- The push of block `k`'s IV, if the transfer is started. -/
def ivPush (st : St) (k : Nat) : Option Transfer :=
  (ivPushes (blkEvents board img env st k)).head?.join

variable {board img env}

theorem ivPushes_blkEvents (st : St) (k : Nat) :
    ivPushes (blkEvents board img env st k) = [ivPush board img env st k] := by
  obtain ⟨sent, _, events, _⟩ := blkEvents_eq board img env st k
  rw [ivPush, events, ivPushes_call]
  rfl

theorem ivPush_eq_some {st : St} {k : Nat} {t : Transfer}
    (pushed : ivPush board img env st k = some t) :
    (blkTransfers board img env st k).head? = some t := by
  obtain ⟨sent, ⟨rest, all⟩, events, _⟩ := blkEvents_eq board img env st k
  rw [ivPush, events, ivPushes_call] at pushed
  have first : sent.head? = some t := pushed
  rw [← all, List.head?_append, first]
  rfl

theorem startsAfresh_blkEvents (st : St) (k : Nat) (rest : List Event) :
    StartsAfresh (blkEvents board img env st k ++ rest) := by
  obtain ⟨sent, _, events, _⟩ := blkEvents_eq board img env st k
  rw [events]
  intro t rest same
  cases same

theorem startsAfresh_keyLoad (ret : TeeResult) : StartsAfresh [.keyLoad ret] := by
  intro t rest same
  cases same

theorem ivPushes_eventsBefore (st : St) (n : Nat) :
    ivPushes (eventsBefore board img env st n) =
      (List.range n).map (ivPush board img env st) := by
  induction n with
  | zero => rfl
  | succ n ih =>
    rw [eventsBefore_succ, ivPushes_append _ (startsAfresh_blkEvents _ _ _),
      ivPushes_append _ (startsAfresh_keyLoad _), ivPushes_blkEvents, ih, List.range_succ,
      List.map_append]
    rfl

/-- **The loader pushes one IV per block**, in the order of the blocks. -/
theorem ivPushes_writeEvents (n : Nat) (st : St) :
    ∃ m, ivPushes (writeEvents board img env n st) =
      (List.range m).map (ivPush board img env (entryState img env st)) := by
  have entry : Event.decrypt ∉ entryEvents img env := by simp [entryEvents]
  by_cases mapped : board.csu = true ∧ board.aes = true
  · rcases writeEvents_cases mapped n st with ⟨_, events⟩ | ⟨k, _, _, _, tail, short, events⟩
    · refine ⟨n, ?_⟩
      rw [events, ivPushes_skip entry, ivPushes_eventsBefore]
    · have afresh : StartsAfresh tail := by
        rcases short with rfl | ⟨ret, rfl, _⟩
        · exact fun t rest same => by cases same
        · exact startsAfresh_keyLoad ret
      have quiet : Event.decrypt ∉ tail := by
        rcases short with rfl | ⟨ret, rfl, _⟩ <;> simp
      refine ⟨k + 1, ?_⟩
      rw [events, List.append_assoc, List.append_assoc, ivPushes_skip entry,
        ivPushes_append _ (startsAfresh_blkEvents _ _ _), ivPushes_append _ afresh,
        ivPushes_eq_nil quiet, ivPushes_eventsBefore, ivPushes_blkEvents, List.range_succ,
        List.map_append]
      rfl
  · refine ⟨0, ?_⟩
    rw [writeEvents_unmapped mapped]
    rfl

/-- The first push is of what `bs_iv` points to when the loader is called. -/
theorem ivPush_zero {st : St} (iv : st.bsIv = imageIv) {t : Transfer}
    (pushed : ivPush board img env st 0 = some t) :
    t.src = ⟨.ivArr, 0⟩ ∧ t.len = 16 ∧ t.ivArr = st.ivArr := by
  have first := ivPush_eq_some pushed
  rw [blkTransfers, blkIv, iv] at first
  obtain rfl := Option.some.inj first
  exact ⟨rfl, rfl, rfl⟩

/-- Every later one is of the engine's registers. -/
theorem ivPush_succ {st : St} {k : Nat} {t : Transfer}
    (pushed : ivPush board img env st (k + 1) = some t) : t.src = ⟨.aesIv, 0⟩ ∧ t.len = 16 := by
  obtain rfl := Option.some.inj (ivPush_eq_some pushed)
  exact ⟨rfl, rfl⟩

end Blocks

/-! ### The stored IV -/

/-- The bytes of `iv_arr` that no image replaces are zero. -/
def ZeroTail (ivArr : Vector Byte 16) : Prop := ∀ i, ivLen ≤ i → (below : i < 16) → ivArr[i] = 0#8

theorem getElem_loadIv (img : Image) (ivArr : Vector Byte 16) {i : Nat} (below : i < 16) :
    (loadIv img ivArr)[i] = if i < ivLen then img.byte (ivOffset + i) else ivArr[i] := by
  rw [loadIv, Vector.getElem_ofFn]
  rfl

theorem ZeroTail.loadIv {ivArr : Vector Byte 16} (zero : ZeroTail ivArr) (img : Image) :
    ZeroTail (loadIv img ivArr) := by
  intro i late below
  rw [getElem_loadIv, if_neg (not_lt.mpr late), zero i late below]

/-- What a validated image leaves in `iv_arr`. -/
theorem ZeroTail.toList_loadIv {ivArr : Vector Byte 16} (zero : ZeroTail ivArr) (img : Image) :
    (Loader.loadIv img ivArr).toList = img.bytes 0xA0 12 ++ List.replicate 4 0#8 := by
  have length : (img.bytes 0xA0 12).length = 12 := by simp [Image.bytes]
  apply List.ext_getElem
  · simp [Image.bytes]
  · intro i inside _
    have below : i < 16 := by simpa using inside
    rw [Vector.getElem_toList, getElem_loadIv img ivArr below]
    by_cases early : i < 12
    · rw [if_pos (show i < ivLen from early), List.getElem_append_left (by omega)]
      simp [Image.bytes, ivOffset]
    · rw [if_neg (show ¬ i < ivLen from early), zero i (not_lt.mp early) below,
        List.getElem_append_right (by omega), List.getElem_replicate]

theorem validate_ivArr (build : Build) (img : Image) (st : St) :
    (validateSecureBitstream build img st).1.ivArr =
      if img.Valid then loadIv img st.ivArr else st.ivArr := by
  rw [validate_eq]
  split <;> rfl

theorem dfxDecouple_ivArr (va : Bool) (value : Word) (st : St) :
    (zynqmpDfxDecouple va value st).ivArr = st.ivArr := by
  unfold zynqmpDfxDecouple
  split <;> rfl

/-- An image that validation rejects leaves the stored IV and the pointer to it alone. -/
theorem validate_rejected {build : Build} {img : Image} {st : St}
    (rejected : (validateSecureBitstream build img st).2 ≠ teeSuccess) :
    (validateSecureBitstream build img st).1.ivArr = st.ivArr ∧
      (validateSecureBitstream build img st).1.bsIv = st.bsIv := by
  have invalid : ¬ img.Valid := fun valid => rejected ((validate_ret_iff build img st).mpr valid)
  rw [validate_eq, if_neg invalid]
  exact ⟨rfl, rfl⟩

section Runs

variable {board : Board}

/-- A command replaces the stored IV by its image's or leaves it alone. -/
theorem ptaWrite_ivArr (c : Cmd) (st : St) :
    (ptaZynqmpFpgaWrite board c.params c.env c.rounds st).1.ivArr = st.ivArr ∨
      ∃ img, (ptaZynqmpFpgaWrite board c.params c.env c.rounds st).1.ivArr =
        loadIv img st.ivArr := by
  have validated (img : Image) : (validateSecureBitstream board.build img st).1.ivArr = st.ivArr ∨
      ∃ other, (validateSecureBitstream board.build img st).1.ivArr = loadIv other st.ivArr := by
    rw [validate_ivArr]
    split
    · exact Or.inr ⟨img, rfl⟩
    · exact Or.inl rfl
  rcases admits_cases board c.params c.env with
    ⟨img, admits⟩ | ⟨img, offers, rejected⟩ | nothing
  · have kept : (ptaZynqmpFpgaWrite board c.params c.env c.rounds st).1.ivArr =
        (validateSecureBitstream board.build img st).1.ivArr := by
      have loader :=
        (secureWrite_frame board img c.env c.rounds (isolatedState board img c.env st)).2
      rw [isolatedState, dfxDecouple_ivArr] at loader
      rw [ptaWrite_admitted admits]
      simp only
      split
      · exact loader
      · rw [dfxDecouple_ivArr]
        exact loader
    rw [kept]
    exact validated img
  · obtain ⟨ret, _, written⟩ := ptaWrite_rejected offers rejected c.rounds st
    rw [written]
    exact validated img
  · rw [ptaWrite_unoffered nothing]
    exact Or.inl rfl

/-- **Over every history the last four bytes of `iv_arr` are zero.** -/
theorem zeroTail_after (board : Board) (cmds : List Cmd) :
    ZeroTail (Run.after board cmds).st.ivArr := by
  refine run_invariant (fun r : Run => ZeroTail r.st.ivArr) ?_ ?_ cmds
  · show ZeroTail (Vector.replicate 16 0#8)
    intro i _ below
    rw [Vector.getElem_replicate]
  · intro r c zero
    cases live : r.returned with
    | false =>
      rw [Run.step_stuck live]
      exact zero
    | true =>
      rw [Run.step_st live]
      have stored : (ptaZynqmpFpgaWrite board c.params c.env c.rounds r.st).1.ivArr = _ ∨ _ :=
        ptaWrite_ivArr c r.st
      rcases stored with same | ⟨img, loaded⟩
      · rw [same]
        exact zero
      · rw [loaded]
        exact zero.loadIv img

variable (board) in
/-- **Every block of a run is decrypted with its own IV.** -/
structure IvBound (cmds : List Cmd) : Prop where
  /-- The secure header: the IV of the command's image, twelve bytes and four zeros. -/
  secureHeader : ∀ before c after, cmds = before ++ c :: after →
    (Run.after board before).returned = true → ∀ t,
    (ivPushes (c.events board (Run.after board before).st))[0]? = some (some t) →
    ∃ img, c.params.memref = some img ∧ t.src = ⟨.ivArr, 0⟩ ∧ t.len = 16 ∧
      t.ivArr.toList = img.bytes 0xA0 12 ++ List.replicate 4 0#8
  /-- The blocks after it: the registers of the engine. -/
  dataBlocks : ∀ before c after, cmds = before ++ c :: after →
    (Run.after board before).returned = true → ∀ k t,
    (ivPushes (c.events board (Run.after board before).st))[k + 1]? = some (some t) →
    t.src = ⟨.aesIv, 0⟩ ∧ t.len = 16
  /-- A rejected image changes neither the stored IV nor the pointer. -/
  rejected : ∀ before c after, cmds = before ++ c :: after →
    (Run.after board before).returned = true → ∀ img, c.params.Offers img →
    (validateSecureBitstream board.build img (Run.after board before).st).2 ≠ teeSuccess →
    (Run.after board (before ++ [c])).st.ivArr = (Run.after board before).st.ivArr ∧
      (Run.after board (before ++ [c])).st.bsIv = (Run.after board before).st.bsIv

/-- The pushes of a command are those of its loader call, from the state validation left. -/
theorem ivPushes_events {c : Cmd} {st : St} {k : Nat} {t : Transfer}
    (pushed : (ivPushes (c.events board st))[k]? = some (some t)) :
    ∃ img, Admits board c.params c.env img ∧
      ivPush board img c.env (entryState img c.env (isolatedState board img c.env st)) k =
        some t := by
  by_cases admitted : c.Admitted board
  · obtain ⟨img, admits⟩ := admitted
    have reads : Event.decrypt ∉ validateReads board.build img := fun here => by
      cases isRead_of_mem_validateReads here
    have loader : ∃ m, ivPushes (writeEvents board img c.env c.rounds
        (isolatedState board img c.env st)) = _ := ivPushes_writeEvents _ _
    obtain ⟨m, blocks⟩ := loader
    rw [Cmd.events, ptaEvents_admitted admits, ivPushes_skip reads, blocks, List.getElem?_map,
      Option.map_eq_some_iff] at pushed
    obtain ⟨j, within, push⟩ := pushed
    obtain ⟨_, same⟩ := List.getElem?_eq_some_iff.mp within
    rw [List.getElem_range] at same
    exact ⟨img, admits, same ▸ push⟩
  · have none : Event.decrypt ∉ c.events board st := fun here => by
      cases (ptaWrite_unadmitted admitted st).2.2 _ here
    rw [ivPushes_eq_nil none] at pushed
    cases pushed

/-- **The IVs are bound over every history**: rejected, failed and completed loads alike. -/
theorem ivBound (board : Board) (cmds : List Cmd) : IvBound board cmds := by
  refine ⟨fun before c after _ _ t pushed => ?_, fun before c after _ _ k t pushed => ?_,
    fun before c after _ live img offers rejected => ?_⟩
  · obtain ⟨img, admits, first⟩ := ivPushes_events pushed
    have iv : (isolatedState board img c.env (Run.after board before).st).bsIv = imageIv :=
      isolatedState_bsIv admits.2.1 _
    obtain ⟨src, len, bytes⟩ := ivPush_zero ((entryState_bsIv _).trans iv) first
    refine ⟨img, admits.1.2.1, src, len, ?_⟩
    rw [bytes, (entryState_frame _).2, isolatedState, dfxDecouple_ivArr, validate_ivArr,
      if_pos admits.2.1, (zeroTail_after board before).toList_loadIv]
  · obtain ⟨img, _, later⟩ := ivPushes_events pushed
    exact ivPush_succ later
  · have invalid : ¬ (img.Valid ∧ zynqmpCsuPcapInit board c.env = teeSuccess) := fun both =>
      rejected ((validate_ret_iff board.build img _).mpr both.1)
    obtain ⟨ret, _, written⟩ := ptaWrite_rejected offers invalid c.rounds
      (Run.after board before).st
    rw [Run.after_concat, Run.step_st live, written]
    exact validate_rejected rejected

end Runs

end TrustzoneWatchdog.Loader
