import ModbusGateway.Ota.Handlers

/-!
# Uploads

Every run of `upload_post` takes one of a few paths, and `UploadPath` lists them with what each has done.
The facts about an upload are read off the path: what was written before a slot is selected, which
resources are open when it fails, and what the client was told.
-/

namespace ModbusGateway

/-! ## Events -/

namespace OtaEvent

/-- A call of the receive loop. -/
def isTransfer : OtaEvent → Bool
  | recv _ | write _ _ => true
  | _ => false

def isSelect : OtaEvent → Bool
  | select _ => true
  | _ => false

def isBegin : OtaEvent → Bool
  | begin _ => true
  | _ => false

def isEnd : OtaEvent → Bool
  | ended _ => true
  | _ => false

def isAbort : OtaEvent → Bool
  | abort => true
  | _ => false

def isAlloc : OtaEvent → Bool
  | alloc => true
  | _ => false

def isFree : OtaEvent → Bool
  | free => true
  | _ => false

def isReply : OtaEvent → Bool
  | reply _ => true
  | _ => false

/-- What the event adds to the image. -/
def written : OtaEvent → ByteString
  | write data _ => data
  | _ => []

/-- A receive call that timed out. -/
def timeout : OtaEvent := recv HTTPD_SOCK_ERR_TIMEOUT

end OtaEvent

open OtaEvent

/-- The data of the write calls, in order. -/
def writtenBytes (events : List OtaEvent) : ByteString := events.flatMap OtaEvent.written

/-- A block of equal elements starts behind a short prefix that ends with another one. -/
theorem block_after {x t : α} {l r pre post : List α} (hx : x ≠ t) (hl : l.length < n)
    (h : l ++ x :: r = pre ++ (List.replicate n t ++ post)) :
    ∃ pre', r = pre' ++ (List.replicate n t ++ post) := by
  have hmem (m : Nat) : x ∉ List.replicate m t := fun hm => hx (List.eq_of_mem_replicate hm)
  rcases List.append_eq_append_iff.mp h with ⟨as, -, hr⟩ | ⟨bs, hpre, hblock⟩
  · cases as with
    | nil =>
      cases n with
      | zero => exact absurd hl (Nat.not_lt_zero _)
      | succ n => exact absurd (List.cons.inj hr).1 hx
    | cons y as => exact ⟨as, (List.cons.inj hr).2⟩
  · have hlen : bs.length < n := by
      rw [hpre, List.length_append] at hl
      omega
    rcases List.append_eq_append_iff.mp hblock with ⟨as, has, -⟩ | ⟨cs, hreplicate, hrest⟩
    · rw [has, List.length_append, List.length_replicate] at hlen
      omega
    · cases cs with
      | nil =>
        rw [List.append_nil] at hreplicate
        rw [← hreplicate, List.length_replicate] at hlen
        exact absurd hlen (Nat.lt_irrefl _)
      | cons y cs =>
        have hxy := (List.cons.inj hrest).1
        have hin : x ∈ List.replicate n t := by
          rw [hreplicate, hxy]
          exact List.mem_append_right _ List.mem_cons_self
        exact absurd hin (hmem n)

/-- Only one element can be the one with the property. -/
theorem split_unique {p : α → Bool} {a b pre post : List α} {x y : α} (ha : ∀ z ∈ a, p z = false)
    (hb : ∀ z ∈ b, p z = false) (h : a ++ x :: b = pre ++ y :: post) (hy : p y = true) :
    pre = a ∧ y = x := by
  rcases List.append_eq_append_iff.mp h with ⟨as, hpre, hrest⟩ | ⟨bs, hpre, hrest⟩
  · cases as with
    | nil =>
      rw [List.append_nil] at hpre
      exact ⟨hpre, (List.cons.inj hrest).1.symm⟩
    | cons z as =>
      have hmem : y ∈ b := by
        rw [(List.cons.inj hrest).2]
        exact List.mem_append_right _ List.mem_cons_self
      rw [hb y hmem] at hy
      cases hy
  · cases bs with
    | nil =>
      rw [List.append_nil] at hpre
      exact ⟨hpre.symm, (List.cons.inj hrest).1⟩
    | cons z bs =>
      have hmem : y ∈ a := by
        rw [hpre, (List.cons.inj hrest).1]
        exact List.mem_append_right _ List.mem_cons_self
      rw [ha y hmem] at hy
      cases hy

/-! ## The receive loop -/

/-- What the loop has done: nothing but receiving and writing, and it has written what it has received, all
of the rest of the body if it comes to its end. -/
structure Receives (calls : UploadCalls) (remaining : Nat) (r : List OtaEvent × Option Denial) :
    Prop where
  transfers : ∀ e ∈ r.1, e.isTransfer = true
  complete : r.2 = none → writtenBytes r.1 =
    (List.range remaining).map fun i => calls.body (calls.contentLen - remaining + i)

theorem range_map_append (f : Nat → α) (m n : Nat) :
    (List.range m).map f ++ (List.range n).map (fun i => f (m + i)) = (List.range (m + n)).map f := by
  rw [List.range_add, List.map_append, List.map_map]
  rfl

theorem receiveLoop_receives (calls : UploadCalls) (deadline : Int) (timeouts turn : Nat)
    (hle : remaining ≤ calls.contentLen) :
    Receives calls remaining (receiveLoop calls deadline remaining timeouts turn) := by
  fun_induction receiveLoop calls deadline remaining timeouts turn with
  | case1 => exact ⟨fun _ h => (by cases h), fun _ => rfl⟩
  | case2 => exact ⟨fun _ h => (by cases h), fun h => (by cases h)⟩
  | case3 remaining timeouts turn hpos hclock received htimeout rest ih =>
    have H := ih hle
    refine ⟨fun e he => ?_, fun hdone => H.complete hdone⟩
    rcases List.mem_cons.mp he with rfl | he
    · rfl
    · exact H.transfers e he
  | case4 =>
    refine ⟨fun e he => ?_, fun h => (by cases h)⟩
    cases List.mem_singleton.mp he
    rfl
  | case5 =>
    refine ⟨fun e he => ?_, fun h => (by cases h)⟩
    rcases List.mem_cons.mp he with rfl | he
    · rfl
    · cases List.mem_singleton.mp he
      rfl
  | case6 remaining timeouts turn hpos hclock wanted received htimeout hend data result hok rest ih =>
    have hreceived : received.toNat ≤ remaining := by
      have hwanted : wanted ≤ remaining := Nat.min_le_left _ _
      omega
    have H := ih (by omega)
    refine ⟨fun e he => ?_, fun hdone => ?_⟩
    · rcases List.mem_cons.mp he with rfl | he
      · rfl
      · rcases List.mem_cons.mp he with rfl | he
        · rfl
        · exact H.transfers e he
    · have htail := H.complete hdone
      have hsum : received.toNat + (remaining - received.toNat) = remaining := by omega
      have hjoin := range_map_append (fun i => calls.body (calls.contentLen - remaining + i))
        received.toNat (remaining - received.toNat)
      rw [hsum] at hjoin
      show data ++ writtenBytes rest.1 = _
      rw [htail, ← hjoin]
      congr 1
      refine List.map_congr_left fun i _ => ?_
      congr 1
      omega

/-- A receive call that timed out. -/
def isTimeout : OtaEvent → Bool
  | recv received => received == HTTPD_SOCK_ERR_TIMEOUT
  | _ => false

theorem countP_block (pre post : List OtaEvent) :
    (pre ++ (List.replicate 6 timeout ++ post)).countP isTimeout =
      pre.countP isTimeout + (6 + post.countP isTimeout) := by
  rw [List.countP_append, List.countP_append, List.countP_replicate]
  rfl

/-- Data and its write stand between two blocks of timeouts. -/
theorem block_after_write {timeouts : Nat} {received : Int} {data : ByteString} {result : EspErr}
    {rest pre post : List OtaEvent} (hle : timeouts ≤ 5)
    (hreceived : received ≠ HTTPD_SOCK_ERR_TIMEOUT)
    (h : List.replicate timeouts timeout ++ recv received :: write data result :: rest =
      pre ++ (List.replicate 6 timeout ++ post)) :
    ∃ pre', rest = pre' ++ (List.replicate 6 timeout ++ post) := by
  have hne : recv received ≠ timeout := fun heq => hreceived (recv.inj heq)
  obtain ⟨pre', hrest⟩ := block_after hne (by rw [List.length_replicate]; omega) h
  exact @block_after _ 6 (write data result) timeout [] _ _ _ (fun h => (by cases h)) (by decide)
    hrest

/-- The sixth timeout in a row is the end of the transfer. -/
theorem receiveLoop_timeouts (calls : UploadCalls) (deadline : Int) (remaining turn : Nat)
    {tail pre post : List OtaEvent} (hle : timeouts ≤ 5) (htail : tail.countP isTimeout = 0)
    (h : List.replicate timeouts timeout ++
        ((receiveLoop calls deadline remaining timeouts turn).1 ++ tail) =
      pre ++ (List.replicate 6 timeout ++ post)) :
    post = tail ∧ (receiveLoop calls deadline remaining timeouts turn).2 ≠ none := by
  have hcount (m : Nat) (l : List OtaEvent) :
      (List.replicate m timeout ++ l).countP isTimeout = m + l.countP isTimeout := by
    rw [List.countP_append, List.countP_replicate]
    rfl
  -- what is left of the tail has no block
  have hnone {pre : List OtaEvent} (h : tail = pre ++ (List.replicate 6 timeout ++ post)) : False := by
    have hcountTail := countP_block pre post
    rw [← h, htail] at hcountTail
    omega
  fun_induction receiveLoop calls deadline remaining timeouts turn generalizing pre with
  | case1 | case2 =>
    have hcounts := congrArg (List.countP isTimeout) h
    rw [hcount, countP_block, List.nil_append, htail] at hcounts
    omega
  | case3 remaining timeouts turn hpos hclock received htimeout rest =>
    rename_i ih
    have hevent : recv received = timeout := congrArg recv htimeout.1
    refine @ih pre htimeout.2 ?_
    rw [List.replicate_succ', List.append_assoc, ← h, hevent]
    rfl
  | case4 remaining timeouts turn hpos hclock wanted received htimeout =>
    rename_i hend
    by_cases hlast : received = HTTPD_SOCK_ERR_TIMEOUT
    · -- it is the sixth
      have hfive : timeouts = 5 := by omega
      subst hfive
      rw [hlast] at h
      have hcounts := congrArg (List.countP isTimeout) h
      rw [hcount, countP_block] at hcounts
      cases pre with
      | nil =>
        have hrest : List.replicate 6 timeout ++ tail = List.replicate 6 timeout ++ post := h
        exact ⟨(List.append_cancel_left hrest).symm, fun h => (by cases h)⟩
      | cons e pre =>
        have hhead : timeout = e := (List.cons.inj h).1
        have hcountTail : ([timeout] ++ tail).countP isTimeout = 1 := by
          rw [List.countP_append, htail]
          rfl
        have hcountPre : (e :: pre).countP isTimeout = pre.countP isTimeout + 1 := by
          rw [← hhead]
          exact List.countP_cons_of_pos rfl
        have hsum : 5 + ([timeout] ++ tail).countP isTimeout =
            (e :: pre).countP isTimeout + (6 + post.countP isTimeout) := hcounts
        omega
    · have hne : recv received ≠ timeout := fun h => hlast (recv.inj h)
      obtain ⟨pre', hrest⟩ := block_after hne (by rw [List.length_replicate]; omega) h
      exact (hnone hrest).elim
  | case5 remaining timeouts turn hpos hclock wanted received htimeout hend data result hfail =>
    have hreceived : received ≠ HTTPD_SOCK_ERR_TIMEOUT := by
      unfold HTTPD_SOCK_ERR_TIMEOUT
      omega
    obtain ⟨pre', hrest⟩ := block_after_write hle hreceived h
    exact (hnone hrest).elim
  | case6 remaining timeouts turn hpos hclock wanted received htimeout hend data result hok rest =>
    rename_i ih
    have hreceived : received ≠ HTTPD_SOCK_ERR_TIMEOUT := by
      unfold HTTPD_SOCK_ERR_TIMEOUT
      omega
    obtain ⟨pre', hrest⟩ := block_after_write hle hreceived h
    exact ih (by decide) hrest

/-! ## The paths -/

/-- What the receive loop of an upload does. -/
def transfer (calls : UploadCalls) : List OtaEvent × Option Denial :=
  receiveLoop calls (calls.clock 0 + RECEIVE_DEADLINE_US) calls.contentLen 0 0

/-- The candidate may be selected: its two strings are terminated, the version is not empty, the project is
that of the running firmware and the secure version is not older. -/
structure Selectable (calls : UploadCalls) (app : AppDescription) : Prop where
  described : calls.description.1 = ESP_OK
  project_terminated : ∃ i, i < DESCRIPTION_BYTES ∧ calls.description.2.projectName.getD i 0 = 0
  version_terminated : ∃ i, i < DESCRIPTION_BYTES ∧ calls.description.2.version.getD i 0 = 0
  version_nonempty : calls.description.2.version.getD 0 0 ≠ 0
  project : sameString calls.description.2.projectName app.projectName = true
  secureVersion : app.secureVersion ≤ calls.description.2.secureVersion

theorem boundedLength_terminated (h : boundedLength maximum value ≠ maximum) :
    ∃ i, i < maximum ∧ value.getD i 0 = 0 := by
  induction value generalizing maximum with
  | nil =>
    cases maximum with
    | zero => exact absurd rfl h
    | succ maximum => exact ⟨0, Nat.succ_pos _, rfl⟩
  | cons c value ih =>
    cases maximum with
    | zero => exact absurd rfl h
    | succ maximum =>
      rw [boundedLength] at h
      split at h
      · next hc => exact ⟨0, Nat.succ_pos _, hc⟩
      · obtain ⟨i, hi, hzero⟩ := ih fun heq => h (congrArg Nat.succ heq)
        exact ⟨i + 1, Nat.succ_lt_succ hi, hzero⟩

theorem checkCandidate_eq_ok (h : checkCandidate calls app = .ok imageHash) :
    Selectable calls app := by
  unfold checkCandidate at h
  dsimp only at h
  split at h
  · cases h
  · next hdescription =>
    simp only [not_or, not_not] at hdescription
    obtain ⟨hdescribed, hproject, hversion, hnonempty⟩ := hdescription
    split at h
    · cases h
    · next hsame =>
      split at h
      · cases h
      · next hsecure =>
        exact ⟨hdescribed, boundedLength_terminated hproject, boundedLength_terminated hversion,
          hnonempty, not_not.mp hsame, UInt32.not_lt.mp hsecure⟩

/-- The paths of `upload_post`. -/
inductive UploadPath (calls : UploadCalls) (s : OtaState) : OtaState × List OtaEvent → Prop
  | refused (denial : Denial) : UploadPath calls s (s, [calls.deny denial])
  | taken (denial : Denial) :
    UploadPath calls s ({ s with uploadBusy := true }, [.claim true, calls.deny denial])
  | noBuffer (denial : Denial) :
    UploadPath calls s ({ s with uploadBusy := false }, [.claim false, calls.deny denial])
  | noHandle (denial : Denial) : calls.begin ≠ ESP_OK →
    UploadPath calls s ({ s with uploadBusy := false },
      [.claim false, .alloc, .begin calls.begin, .free, calls.deny denial])
  | interrupted (denial : Denial) :
    UploadPath calls s ({ s with uploadBusy := false },
      .claim false :: .alloc :: .begin ESP_OK ::
        ((transfer calls).1 ++ [.abort, .free, calls.deny denial]))
  | rejected (denial : Denial) : (transfer calls).2 = none →
    UploadPath calls s ({ s with uploadBusy := false },
      .claim false :: .alloc :: .begin ESP_OK ::
        ((transfer calls).1 ++ [.free, .ended calls.ended, calls.deny denial]))
  | unselected (app : AppDescription) (denial : Denial) : (transfer calls).2 = none →
    calls.runningApp = some app → Selectable calls app → calls.select ≠ ESP_OK →
    UploadPath calls s ({ s with uploadBusy := false },
      .claim false :: .alloc :: .begin ESP_OK ::
        ((transfer calls).1 ++ [.free, .ended ESP_OK, .select calls.select, calls.deny denial]))
  | selected (app : AppDescription) (reply : HttpReply) : (transfer calls).2 = none →
    calls.runningApp = some app → Selectable calls app →
    UploadPath calls s ({ s with uploadBusy := true, restartPending := true },
      .claim false :: .alloc :: .begin ESP_OK ::
        ((transfer calls).1 ++
          [.free, .ended ESP_OK, .select ESP_OK, calls.respond reply, .restart]))

theorem uploadChecks_app (h : uploadChecks calls s = .ok (app, target)) :
    calls.runningApp = some app := by
  unfold uploadChecks at h
  split at h
  · cases h
  · split at h
    · cases h
    · next found hfound =>
      split at h
      · cases h
      · split at h
        · cases h
        · split at h
          · cases h
          · split at h
            · cases h
            · split at h
              · cases h
              · cases h
                exact hfound

theorem uploadPost_path (calls : UploadCalls) (s : OtaState) :
    UploadPath calls s (uploadPost calls s) := by
  unfold uploadPost
  cases hchecks : uploadChecks calls s with
  | error denial => exact .refused denial
  | ok r =>
    obtain ⟨app, target⟩ := r
    have happ := uploadChecks_app hchecks
    dsimp only
    split
    · exact .taken _
    · unfold uploadTransfer
      split
      · exact .noBuffer _
      · split
        · next hbegin => exact .noHandle _ hbegin
        · next hbegin =>
          rw [not_not.mp hbegin]
          have hloop : receiveLoop calls (calls.clock 0 + RECEIVE_DEADLINE_US) calls.contentLen 0 0 =
              transfer calls := rfl
          dsimp only
          rw [hloop]
          cases hdone : (transfer calls).2 with
          | some denial => exact .interrupted denial
          | none =>
            dsimp only
            unfold uploadFinish
            split
            · exact .rejected _ hdone
            · next hended =>
              cases hcandidate : checkCandidate calls app with
              | error denial => exact .rejected denial hdone
              | ok imageHash =>
                have hselectable := checkCandidate_eq_ok hcandidate
                dsimp only
                rw [not_not.mp hended]
                split
                · next hselect => exact .unselected app _ hdone happ hselectable hselect
                · next hselect =>
                  rw [not_not.mp hselect]
                  exact .selected app _ hdone happ hselectable

/-! ## What holds on every path -/

theorem transfer_receives (calls : UploadCalls) : Receives calls calls.contentLen (transfer calls) :=
  receiveLoop_receives calls _ 0 0 (Nat.le_refl _)

theorem transfer_written (h : (transfer calls).2 = none) :
    writtenBytes (transfer calls).1 = (List.range calls.contentLen).map calls.body := by
  rw [(transfer_receives calls).complete h]
  refine List.map_congr_left fun i _ => ?_
  rw [Nat.sub_self, Nat.zero_add]

/-- A kind of event that is not in the transfer. -/
def Outside (p : OtaEvent → Bool) : Prop := ∀ e, e.isTransfer = true → p e = false

theorem outside_isSelect : Outside isSelect := fun e h => by cases e <;> first | rfl | cases h
theorem outside_isBegin : Outside isBegin := fun e h => by cases e <;> first | rfl | cases h
theorem outside_isEnd : Outside isEnd := fun e h => by cases e <;> first | rfl | cases h
theorem outside_isAbort : Outside isAbort := fun e h => by cases e <;> first | rfl | cases h
theorem outside_isAlloc : Outside isAlloc := fun e h => by cases e <;> first | rfl | cases h
theorem outside_isFree : Outside isFree := fun e h => by cases e <;> first | rfl | cases h
theorem outside_isReply : Outside isReply := fun e h => by cases e <;> first | rfl | cases h

theorem Outside.none_of {p : OtaEvent → Bool} (H : Outside p) (calls : UploadCalls) :
    ∀ e ∈ (transfer calls).1, p e = false := fun e he => H e ((transfer_receives calls).transfers e he)

theorem Outside.count {p : OtaEvent → Bool} (H : Outside p) (calls : UploadCalls)
    (start tail : List OtaEvent) :
    (start ++ ((transfer calls).1 ++ tail)).countP p = start.countP p + tail.countP p := by
  have hnone : (transfer calls).1.countP p = 0 :=
    List.countP_eq_zero.mpr fun e he => by
      rw [H.none_of calls e he]
      decide
  rw [List.countP_append, List.countP_append, hnone, Nat.zero_add]

variable {calls : UploadCalls} {s : OtaState} {r : OtaState × List OtaEvent}

/-- The same, as the paths are written. -/
theorem Outside.count₃ {p : OtaEvent → Bool} (H : Outside p) (a b c : OtaEvent) (tail : List OtaEvent) :
    (a :: b :: c :: ((transfer calls).1 ++ tail)).countP p =
      [a, b, c].countP p + tail.countP p := H.count calls [a, b, c] tail

theorem UploadPath.replies (H : UploadPath calls s r) : r.2.countP isReply = 1 := by
  cases H with
  | refused | taken | noBuffer | noHandle => rfl
  | interrupted | rejected | unselected | selected => exact outside_isReply.count₃ ..

theorem UploadPath.handle (H : UploadPath calls s r) : r.2.countP isBegin ≤ 1 := by
  cases H with
  | refused | taken | noBuffer => exact Nat.zero_le 1
  | noHandle => exact Nat.le_refl 1
  | interrupted | rejected | unselected | selected => exact (outside_isBegin.count₃ ..).le

/-- A slot is selected only behind a complete image that was accepted. -/
theorem UploadPath.select (H : UploadPath calls s r) (h : r.2 = pre ++ .select result :: post) :
    writtenBytes pre = (List.range calls.contentLen).map calls.body ∧
      .begin ESP_OK ∈ pre ∧ .ended ESP_OK ∈ pre ∧
      ∃ app, calls.runningApp = some app ∧ Selectable calls app := by
  have hnone (hcount : r.2.countP isSelect = 0) : False := by
    rw [h, List.countP_append, List.countP_cons_of_pos rfl] at hcount
    omega
  have hfound {app : AppDescription} (e : EspErr) (tail : List OtaEvent)
      (hdone : (transfer calls).2 = none) (happ : calls.runningApp = some app)
      (hselectable : Selectable calls app) (htail : ∀ z ∈ tail, isSelect z = false)
      (h : .claim false :: .alloc :: .begin ESP_OK ::
        ((transfer calls).1 ++ (.free :: .ended ESP_OK :: .select e :: tail)) =
          pre ++ .select result :: post) :
      writtenBytes pre = (List.range calls.contentLen).map calls.body ∧
        .begin ESP_OK ∈ pre ∧ .ended ESP_OK ∈ pre ∧
        ∃ app, calls.runningApp = some app ∧ Selectable calls app := by
    have hstart : ∀ z ∈ .claim false :: .alloc :: .begin ESP_OK :: (transfer calls).1 ++
        [.free, .ended ESP_OK], isSelect z = false := by
      intro z hz
      rcases List.mem_append.mp hz with hz | hz
      · have hz : z ∈ [.claim false, .alloc, .begin ESP_OK] ++ (transfer calls).1 := hz
        rcases List.mem_append.mp hz with hz | hz
        · simp only [List.mem_cons, List.not_mem_nil, or_false] at hz
          rcases hz with rfl | rfl | rfl <;> rfl
        · exact outside_isSelect.none_of calls z hz
      · simp only [List.mem_cons, List.not_mem_nil, or_false] at hz
        rcases hz with rfl | rfl <;> rfl
    have hsplit : (.claim false :: .alloc :: .begin ESP_OK :: (transfer calls).1 ++
        [.free, .ended ESP_OK]) ++ .select e :: tail = pre ++ .select result :: post := by
      rw [← h, List.append_assoc]
      rfl
    obtain ⟨rfl, -⟩ := split_unique hstart htail hsplit rfl
    refine ⟨?_, ?_, ?_, app, happ, hselectable⟩
    · rw [← transfer_written hdone]
      have hwritten : writtenBytes (.claim false :: .alloc :: .begin ESP_OK :: (transfer calls).1 ++
          [.free, .ended ESP_OK]) = writtenBytes (transfer calls).1 ++ [] := by
        rw [writtenBytes, List.flatMap_append]
        rfl
      rw [hwritten, List.append_nil]
    · simp
    · simp
  cases H with
  | refused | taken | noBuffer | noHandle => exact (hnone rfl).elim
  | interrupted | rejected => exact (hnone (outside_isSelect.count₃ ..)).elim
  | unselected app denial hdone happ hselectable =>
    refine hfound calls.select [calls.deny denial] hdone happ hselectable (fun z hz => ?_) h
    cases List.mem_singleton.mp hz
    rfl
  | selected app reply hdone happ hselectable =>
    refine hfound ESP_OK [calls.respond reply, .restart] hdone happ hselectable (fun z hz => ?_) h
    simp only [List.mem_cons, List.not_mem_nil, or_false] at hz
    rcases hz with rfl | rfl <;> rfl

/-- Nothing is received, written, ended or selected behind six timeouts in a row. -/
theorem UploadPath.timeouts (H : UploadPath calls s r)
    (h : r.2 = pre ++ (List.replicate 6 timeout ++ post)) :
    ∀ e ∈ post, e.isTransfer = false ∧ e.isEnd = false ∧ e.isSelect = false := by
  have hnone (hcount : r.2.countP isTimeout = 0) : False := by
    rw [h, countP_block] at hcount
    omega
  -- a block starts behind the three events before the transfer
  have hfound (tail : List OtaEvent) (htail : tail.countP isTimeout = 0)
      (h : .claim false :: .alloc :: .begin ESP_OK :: ((transfer calls).1 ++ tail) =
        pre ++ (List.replicate 6 timeout ++ post)) : post = tail ∧ (transfer calls).2 ≠ none := by
    obtain ⟨pre₁, h₁⟩ := @block_after _ 6 (OtaEvent.claim false) timeout [] _ _ _
      (fun h => (by cases h)) (by decide) h
    obtain ⟨pre₂, h₂⟩ := @block_after _ 6 OtaEvent.alloc timeout [] _ _ _
      (fun h => (by cases h)) (by decide) h₁
    obtain ⟨pre₃, h₃⟩ := @block_after _ 6 (OtaEvent.begin ESP_OK) timeout [] _ _ _
      (fun h => (by cases h)) (by decide) h₂
    exact receiveLoop_timeouts calls _ _ 0 (Nat.zero_le 5) htail h₃
  cases H with
  | refused | taken | noBuffer | noHandle => exact (hnone rfl).elim
  | interrupted denial =>
    obtain ⟨rfl, -⟩ := hfound [.abort, .free, calls.deny denial] rfl h
    intro e he
    simp only [List.mem_cons, List.not_mem_nil, or_false] at he
    rcases he with rfl | rfl | rfl <;> exact ⟨rfl, rfl, rfl⟩
  | rejected denial hdone =>
    exact absurd hdone (hfound [.free, .ended calls.ended, calls.deny denial] rfl h).2
  | unselected app denial hdone =>
    exact absurd hdone
      (hfound [.free, .ended ESP_OK, .select calls.select, calls.deny denial] rfl h).2
  | selected app reply hdone =>
    exact absurd hdone
      (hfound [.free, .ended ESP_OK, .select ESP_OK, calls.respond reply, .restart] rfl h).2

/-- What is open is closed: the handle that was begun and not ended is aborted, the buffer is freed once, the
flag is given back, and no slot was selected. -/
structure Released (r : OtaState × List OtaEvent) : Prop where
  aborts : r.2.countP isAbort ≤ 1
  aborted : .abort ∈ r.2 ↔ .begin ESP_OK ∈ r.2 ∧ r.2.countP isEnd = 0
  allocs : r.2.countP isAlloc ≤ 1
  freed : r.2.countP isFree = r.2.countP isAlloc
  busy : .claim false ∈ r.2 → r.1.uploadBusy = false
  unselected : .select ESP_OK ∉ r.2

theorem abort_mem_iff {l : List OtaEvent} : .abort ∈ l ↔ l.countP isAbort ≠ 0 := by
  rw [← Nat.pos_iff_ne_zero, List.countP_pos_iff]
  constructor
  · intro h
    exact ⟨_, h, rfl⟩
  · rintro ⟨e, he, habort⟩
    cases e with
    | abort => exact he
    | _ => cases habort

/-- The counts say whether everything was released. -/
theorem Released.of_counts {aborts ends allocs : Nat} (hbegin : .begin ESP_OK ∈ r.2 ↔ begun = true)
    (habort : r.2.countP isAbort = aborts) (hend : r.2.countP isEnd = ends)
    (halloc : r.2.countP isAlloc = allocs) (hfree : r.2.countP isFree = allocs)
    (hclosed : aborts = if begun = true ∧ ends = 0 then 1 else 0) (hallocs : allocs ≤ 1)
    (hbusy : .claim false ∈ r.2 → r.1.uploadBusy = false) (hselect : .select ESP_OK ∉ r.2) :
    Released r := by
  refine ⟨?_, ?_, by omega, by omega, hbusy, hselect⟩
  · rw [habort, hclosed]
    split <;> decide
  · rw [abort_mem_iff, hbegin, hend, habort, hclosed]
    split
    · next h => exact iff_of_true (by decide) h
    · next h => exact iff_of_false (fun h => h rfl) h

theorem select_notMem {tail : List OtaEvent} (htail : .select ESP_OK ∉ tail) :
    .select ESP_OK ∉ .claim false :: .alloc :: .begin ESP_OK :: ((transfer calls).1 ++ tail) := by
  intro h
  have h : .select ESP_OK ∈ [.claim false, .alloc, .begin ESP_OK] ++ ((transfer calls).1 ++ tail) := h
  rcases List.mem_append.mp h with h | h
  · simp at h
  · rcases List.mem_append.mp h with h | h
    · have hnone := outside_isSelect.none_of calls _ h
      cases hnone
    · exact htail h

theorem UploadPath.released (H : UploadPath calls s r) (h : .restart ∉ r.2) : Released r := by
  have hreply (denial : Denial) {e : OtaEvent} (he : e.isReply = false) : e ≠ calls.deny denial := by
    rintro rfl
    cases he
  have hbegun (tail : List OtaEvent) : .begin ESP_OK ∈
      .claim false :: .alloc :: .begin ESP_OK :: ((transfer calls).1 ++ tail) := by simp
  cases H with
  | refused denial =>
    refine @Released.of_counts _ false 0 0 0 ?_ rfl rfl rfl rfl rfl (Nat.zero_le 1) ?_ ?_
    · simp [hreply denial (rfl : (OtaEvent.begin ESP_OK).isReply = false)]
    · simp [hreply denial (rfl : (OtaEvent.claim false).isReply = false)]
    · simp [hreply denial (rfl : (OtaEvent.select ESP_OK).isReply = false)]
  | taken denial =>
    refine @Released.of_counts _ false 0 0 0 ?_ rfl rfl rfl rfl rfl (Nat.zero_le 1) ?_ ?_
    · simp [hreply denial (rfl : (OtaEvent.begin ESP_OK).isReply = false)]
    · simp [hreply denial (rfl : (OtaEvent.claim false).isReply = false)]
    · simp [hreply denial (rfl : (OtaEvent.select ESP_OK).isReply = false)]
  | noBuffer denial =>
    refine @Released.of_counts _ false 0 0 0 ?_ rfl rfl rfl rfl rfl (Nat.zero_le 1) (fun _ => rfl) ?_
    · simp [hreply denial (rfl : (OtaEvent.begin ESP_OK).isReply = false)]
    · simp [hreply denial (rfl : (OtaEvent.select ESP_OK).isReply = false)]
  | noHandle denial hbegin =>
    refine @Released.of_counts _ false 0 0 1 ?_ rfl rfl rfl rfl rfl (Nat.le_refl 1) (fun _ => rfl) ?_
    · simp [hreply denial (rfl : (OtaEvent.begin ESP_OK).isReply = false), Ne.symm hbegin]
    · simp [hreply denial (rfl : (OtaEvent.select ESP_OK).isReply = false)]
  | interrupted denial =>
    refine @Released.of_counts _ true 1 0 1 (iff_of_true (hbegun _) rfl)
      (outside_isAbort.count₃ ..) (outside_isEnd.count₃ ..) (outside_isAlloc.count₃ ..)
      (outside_isFree.count₃ ..) rfl (Nat.le_refl 1) (fun _ => rfl) (select_notMem ?_)
    simp [hreply denial (rfl : (OtaEvent.select ESP_OK).isReply = false)]
  | rejected denial =>
    refine @Released.of_counts _ true 0 1 1 (iff_of_true (hbegun _) rfl)
      (outside_isAbort.count₃ ..) (outside_isEnd.count₃ ..) (outside_isAlloc.count₃ ..)
      (outside_isFree.count₃ ..) rfl (Nat.le_refl 1) (fun _ => rfl) (select_notMem ?_)
    simp [hreply denial (rfl : (OtaEvent.select ESP_OK).isReply = false)]
  | unselected app denial _ _ _ hselect =>
    refine @Released.of_counts _ true 0 1 1 (iff_of_true (hbegun _) rfl)
      (outside_isAbort.count₃ ..) (outside_isEnd.count₃ ..) (outside_isAlloc.count₃ ..)
      (outside_isFree.count₃ ..) rfl (Nat.le_refl 1) (fun _ => rfl) (select_notMem ?_)
    simp [hreply denial (rfl : (OtaEvent.select ESP_OK).isReply = false), Ne.symm hselect]
  | selected => simp at h

/-- Every upload, whatever the client sends and the platform answers: a slot is selected only behind the
complete body, accepted by `esp_ota_end`, with a descriptor that may be selected; one handle is begun at
most; five timeouts in a row are the limit; one reply is sent; and unless the gateway restarts, everything
is released and no slot was selected. -/
theorem uploadPost_safe (calls : UploadCalls) (s : OtaState) :
    (∀ pre result post, (uploadPost calls s).2 = pre ++ .select result :: post →
      writtenBytes pre = (List.range calls.contentLen).map calls.body ∧
      .begin ESP_OK ∈ pre ∧ .ended ESP_OK ∈ pre ∧
      ∃ app, calls.runningApp = some app ∧ Selectable calls app) ∧
    (uploadPost calls s).2.countP isBegin ≤ 1 ∧
    (∀ pre post, (uploadPost calls s).2 = pre ++ (List.replicate 6 timeout ++ post) →
      ∀ e ∈ post, e.isTransfer = false ∧ e.isEnd = false ∧ e.isSelect = false) ∧
    (uploadPost calls s).2.countP isReply = 1 ∧
    (.restart ∉ (uploadPost calls s).2 → Released (uploadPost calls s)) := by
  have H := uploadPost_path calls s
  exact ⟨fun _ _ _ h => H.select h, H.handle, fun _ _ h => H.timeouts h, H.replies, H.released⟩

end ModbusGateway
