import Mathlib.Algebra.GroupWithZero.Nat
import Mathlib.Data.List.Induction
import Yui.JsText
import Yui.LineFraming

/-!
# The JSON line channel

`#receive` appends a chunk to the buffer, refuses a buffer beyond the bound, and passes the objects of the complete
lines on. What `JSON.parse` makes of a line is a parameter.
-/

open LineFraming

namespace JsonLines

def providerMessageMaxBytes : ℕ := 16 * 1024 * 1024

/-- `Buffer.byteLength(text, "utf8")`. -/
def byteLength (text : List Char) : ℕ := (text.map Char.utf8Size).sum

/-- What `JSON.parse` makes of a text. -/
inductive Parsed (Obj : Type) where
  | invalid | notObject
  | object (message : Obj)

/-- `delivered` is what the listeners were called with. -/
structure JsonLineChannel (Obj : Type) where
  buffer : List Char := []
  closedError : Option String := none
  delivered : List Obj := []

variable {Obj : Type} (parse : String → Parsed Obj)

/-- The loop of `#receive`. -/
def drain (buffer : List Char) (delivered : List Obj) : JsonLineChannel Obj :=
  match _h : buffer.dropWhile (· ≠ '\n') with
  | [] => ⟨buffer, none, delivered⟩
  | _ :: rest =>
    let line := JsText.trim (String.ofList (buffer.takeWhile (· ≠ '\n')))
    if line = "" then drain rest delivered
    else match parse line with
      | .invalid => ⟨rest, some "Provider response is not valid JSON.", delivered⟩
      | .notObject => ⟨rest, some "Provider response must be a JSON object.", delivered⟩
      | .object message => drain rest (delivered ++ [message])
termination_by buffer.length
decreasing_by all_goals
  have hlength := (List.dropWhile_suffix (l := buffer) (· ≠ '\n')).length_le
  rw [_h, List.length_cons] at hlength
  omega

def receive (channel : JsonLineChannel Obj) (chunk : List Char) : JsonLineChannel Obj :=
  if channel.closedError ≠ none then channel
  else
    let buffer := channel.buffer ++ chunk
    if providerMessageMaxBytes < byteLength buffer then
      { channel with buffer := buffer, closedError := some "Provider response line exceeds its message bound." }
    else drain parse buffer channel.delivered

def receiveAll (chunks : List (List Char)) : JsonLineChannel Obj := chunks.foldl (receive parse) {}

/-- The objects of the lines before the first one that is no object, and the error of that line. -/
def wanted : List (List Char) → List Obj × Option String
  | [] => ([], none)
  | line :: lines =>
    let text := JsText.trim (String.ofList line)
    if text = "" then wanted lines
    else match parse text with
      | .invalid => ([], some "Provider response is not valid JSON.")
      | .notObject => ([], some "Provider response must be a JSON object.")
      | .object message => (message :: (wanted lines).1, (wanted lines).2)

def objects (text : List Char) : List Obj := (wanted parse (complete '\n' text)).1

def fault (text : List Char) : Option String := (wanted parse (complete '\n' text)).2

/-- The chunk and the unfinished line before it are within the bound together. -/
def Fits (before chunk : List Char) : Prop := byteLength (unfinished '\n' before ++ chunk) ≤ providerMessageMaxBytes

variable {parse}

theorem wanted_append_fault {lines more : List (List Char)} (h : (wanted parse lines).2 ≠ none) :
    wanted parse (lines ++ more) = wanted parse lines := by
  induction lines with
  | nil => exact absurd rfl h
  | cons line lines ih =>
    rw [List.cons_append, wanted, wanted] at *
    by_cases hblank : JsText.trim (String.ofList line) = ""
    · simp only [if_pos hblank] at h ⊢
      exact ih h
    · simp only [if_neg hblank] at h ⊢
      cases hparse : parse (JsText.trim (String.ofList line)) with
      | invalid | notObject => rfl
      | object message =>
        simp only [hparse] at h ⊢
        rw [ih h]

theorem wanted_append {lines more : List (List Char)} (h : (wanted parse lines).2 = none) :
    wanted parse (lines ++ more) = ((wanted parse lines).1 ++ (wanted parse more).1, (wanted parse more).2) := by
  induction lines with
  | nil => rfl
  | cons line lines ih =>
    rw [List.cons_append, wanted, wanted] at *
    by_cases hblank : JsText.trim (String.ofList line) = ""
    · simp only [if_pos hblank] at h ⊢
      exact ih h
    · simp only [if_neg hblank] at h ⊢
      cases hparse : parse (JsText.trim (String.ofList line)) with
      | invalid | notObject =>
        rw [hparse] at h
        cases h
      | object message =>
        simp only [hparse] at h ⊢
        rw [ih h]
        rfl

theorem objects_prefix (text more : List Char) : objects parse text <+: objects parse (text ++ more) := by
  unfold objects
  rw [complete_append]
  cases hfault : (wanted parse (complete '\n' text)).2 with
  | none =>
    rw [wanted_append hfault]
    exact List.prefix_append _ _
  | some error =>
    have hsome : (wanted parse (complete '\n' text)).2 ≠ none := by simp [hfault]
    exact ⟨[], (List.append_nil _).trans (congrArg Prod.fst (wanted_append_fault hsome)).symm⟩

theorem objects_append_fault {text : List Char} (h : fault parse text ≠ none) (more : List Char) :
    objects parse (text ++ more) = objects parse text ∧ fault parse (text ++ more) = fault parse text := by
  unfold objects fault
  rw [complete_append, wanted_append_fault h]
  exact ⟨rfl, rfl⟩

theorem drain_of_notMem {buffer : List Char} (h : '\n' ∉ buffer) (delivered : List Obj) :
    drain parse buffer delivered = ⟨buffer, none, delivered⟩ := by
  have hdrop : buffer.dropWhile (· ≠ '\n') = [] := by
    rw [List.dropWhile_eq_nil_iff]
    exact fun c hc => decide_eq_true fun heq => h (heq ▸ hc)
  rw [drain]
  split
  · rfl
  · next hfound => exact absurd (hdrop.symm.trans hfound) (by simp)

theorem drain_line {line : List Char} (h : '\n' ∉ line) (rest : List Char) (delivered : List Obj) :
    drain parse (line ++ '\n' :: rest) delivered =
      if JsText.trim (String.ofList line) = "" then drain parse rest delivered
      else match parse (JsText.trim (String.ofList line)) with
        | .invalid => ⟨rest, some "Provider response is not valid JSON.", delivered⟩
        | .notObject => ⟨rest, some "Provider response must be a JSON object.", delivered⟩
        | .object message => drain parse rest (delivered ++ [message]) := by
  have hall : ∀ c ∈ line, decide (c ≠ '\n') = true := fun c hc => decide_eq_true fun heq => h (heq ▸ hc)
  have hdrop : (line ++ '\n' :: rest).dropWhile (· ≠ '\n') = '\n' :: rest := by
    rw [List.dropWhile_append_of_pos hall]
    exact List.dropWhile_cons_of_neg (by simp)
  have htake : (line ++ '\n' :: rest).takeWhile (· ≠ '\n') = line := by
    rw [List.takeWhile_append_of_pos hall, List.takeWhile_cons_of_neg (by simp), List.append_nil]
  rw [drain]
  split
  · next hfound => exact absurd (hdrop.symm.trans hfound) (by simp)
  · next found hfound =>
      obtain rfl : rest = found := (List.cons.inj (hdrop.symm.trans hfound)).2
      rw [htake]

theorem drain_eq (buffer : List Char) (delivered : List Obj) :
    (drain parse buffer delivered).delivered = delivered ++ objects parse buffer ∧
      (drain parse buffer delivered).closedError = fault parse buffer ∧
      (fault parse buffer = none → (drain parse buffer delivered).buffer = unfinished '\n' buffer) := by
  induction hlength : buffer.length using Nat.strong_induction_on generalizing buffer delivered with
  | _ length ih =>
  by_cases hline : '\n' ∈ buffer
  · obtain ⟨line, rest, rfl, hfree⟩ := List.eq_append_cons_of_mem hline
    have hshort : rest.length < length := by
      rw [← hlength, List.length_append, List.length_cons]
      omega
    have hsplit := split_cons hfree rest
    rw [drain_line hfree]
    unfold objects fault complete unfinished
    rw [hsplit, wanted]
    by_cases hblank : JsText.trim (String.ofList line) = ""
    · simp only [if_pos hblank]
      exact ih _ hshort rest delivered rfl
    · simp only [if_neg hblank]
      cases hparse : parse (JsText.trim (String.ofList line)) with
      | invalid | notObject => simp
      | object message =>
        obtain ⟨hdelivered, herror, hbuffer⟩ := ih _ hshort rest (delivered ++ [message]) rfl
        refine ⟨?_, herror, hbuffer⟩
        rw [hdelivered, List.append_assoc]
        rfl
  · rw [drain_of_notMem hline]
    unfold objects fault complete unfinished
    rw [split_of_notMem hline]
    simp [wanted]

/-- Either every chunk was within the bound and no line is at fault, or a line is, or a chunk went beyond the bound. -/
inductive Reached (parse : String → Parsed Obj) (chunks : List (List Char)) (channel : JsonLineChannel Obj) : Prop where
  | running (herror : channel.closedError = none) (hbuffer : channel.buffer = unfinished '\n' chunks.flatten)
      (hdelivered : channel.delivered = objects parse chunks.flatten) (hfault : fault parse chunks.flatten = none)
      (hfits : ∀ before chunk after, chunks = before ++ chunk :: after → Fits before.flatten chunk)
  | faulty (herror : channel.closedError ≠ none) (hdelivered : channel.delivered = objects parse chunks.flatten)
      (hfault : fault parse chunks.flatten ≠ none)
  | beyond (herror : channel.closedError ≠ none) (before : List (List Char)) (chunk : List Char)
      (after : List (List Char)) (hchunks : chunks = before ++ chunk :: after) (hbeyond : ¬ Fits before.flatten chunk)
      (hdelivered : channel.delivered = objects parse before.flatten)

theorem receive_closed {channel : JsonLineChannel Obj} (h : channel.closedError ≠ none) (chunk : List Char) :
    receive parse channel chunk = channel := if_pos h

theorem Reached.receive {chunks : List (List Char)} {channel : JsonLineChannel Obj} (h : Reached parse chunks channel)
    (chunk : List Char) : Reached parse (chunks ++ [chunk]) (receive parse channel chunk) := by
  have hflatten : (chunks ++ [chunk]).flatten = chunks.flatten ++ chunk := by simp
  cases h with
  | running herror hbuffer hdelivered hfault hfits =>
    rw [JsonLines.receive, if_neg (not_not.2 herror)]
    dsimp only
    rw [hbuffer]
    by_cases hbound : providerMessageMaxBytes < byteLength (unfinished '\n' chunks.flatten ++ chunk)
    · rw [if_pos hbound]
      exact .beyond (by simp) chunks chunk [] rfl (not_le.2 hbound) hdelivered
    · rw [if_neg hbound]
      obtain ⟨hout, hclosed, hrest⟩ := @drain_eq _ parse (unfinished '\n' chunks.flatten ++ chunk) channel.delivered
      have hwanted := @wanted_append _ parse _ (complete '\n' (unfinished '\n' chunks.flatten ++ chunk)) hfault
      rw [← complete_append] at hwanted
      have hobjects : objects parse (chunks.flatten ++ chunk) =
          objects parse chunks.flatten ++ objects parse (unfinished '\n' chunks.flatten ++ chunk) := by
        rw [objects, hwanted, objects, objects]
      have hfaults : fault parse (chunks.flatten ++ chunk) =
          fault parse (unfinished '\n' chunks.flatten ++ chunk) := by
        rw [fault, hwanted, fault]
      rw [← hfaults] at hclosed hrest
      replace hout := hout.trans ((congrArg (· ++ _) hdelivered).trans hobjects.symm)
      by_cases hnone : fault parse (chunks.flatten ++ chunk) = none
      · refine .running (hclosed.trans hnone) ?_ (hflatten ▸ hout) (hflatten ▸ hnone) fun before other after hsplit => ?_
        · rw [hrest hnone, hflatten, ← unfinished_append]
        · obtain rfl | ⟨rest, last, rfl⟩ := List.eq_nil_or_concat after
          · obtain ⟨rfl, hlast⟩ := List.append_inj' hsplit rfl
            obtain rfl : chunk = other := List.head_eq_of_cons_eq hlast
            exact not_lt.1 hbound
          · rw [List.concat_eq_append, ← List.cons_append, ← List.append_assoc] at hsplit
            exact hfits before other rest (List.append_inj' hsplit rfl).1
      · exact .faulty (hclosed ▸ hnone) (hflatten ▸ hout) (hflatten ▸ hnone)
  | faulty herror hdelivered hfault =>
    rw [receive_closed herror]
    obtain ⟨hobjects, hsame⟩ := objects_append_fault hfault chunk
    exact .faulty herror (by rw [hdelivered, hflatten, hobjects]) (by rwa [hflatten, hsame])
  | beyond herror before other after hchunks hbeyond hdelivered =>
    rw [receive_closed herror]
    exact .beyond herror before other (after ++ [chunk]) (by simp [hchunks]) hbeyond hdelivered

theorem receiveAll_reached (chunks : List (List Char)) : Reached parse chunks (receiveAll parse chunks) := by
  induction chunks using List.reverseRecOn with
  | nil => exact .running rfl rfl rfl rfl (by simp)
  | append_singleton chunks chunk ih =>
    rw [receiveAll, List.foldl_append]
    exact ih.receive chunk

theorem receiveAll_closed {chunks : List (List Char)} (h : (receiveAll parse chunks).closedError ≠ none)
    (more : List (List Char)) : receiveAll parse (chunks ++ more) = receiveAll parse chunks := by
  induction more using List.reverseRecOn with
  | nil => rw [List.append_nil]
  | append_singleton more chunk ih =>
    rw [← List.append_assoc, receiveAll, List.foldl_append]
    change receive parse (receiveAll parse (chunks ++ more)) chunk = _
    rw [ih, receive_closed h]

variable (parse) in
/-- Exactly the objects of the lines before the first one that is no object are delivered, and without such a line the
channel stays open. -/
def Meets (chunks : List (List Char)) : Prop :=
  (receiveAll parse chunks).delivered = objects parse chunks.flatten ∧
    (fault parse chunks.flatten = none → (receiveAll parse chunks).closedError = none)

theorem Meets.closed {chunks more : List (List Char)} (h : Meets parse (chunks ++ more))
    (hclosed : (receiveAll parse chunks).closedError ≠ none) : fault parse (chunks ++ more).flatten ≠ none ∧
      (receiveAll parse chunks).delivered = objects parse (chunks ++ more).flatten := by
  rw [Meets, receiveAll_closed hclosed] at h
  exact ⟨fun hnone => hclosed (h.2 hnone), h.1⟩

/-- The stream is framed as it should be exactly when every chunk is within the bound together with the unfinished
line before it, but for chunks that come when only the line at fault is missing. -/
theorem meets_iff (parse : String → Parsed Obj) (chunks : List (List Char)) :
    Meets parse chunks ↔ ∀ before chunk after, chunks = before ++ chunk :: after → Fits before.flatten chunk ∨
        (fault parse chunks.flatten ≠ none ∧ objects parse before.flatten = objects parse chunks.flatten) := by
  constructor
  · rintro hmeets before chunk after rfl
    have hflatten : (before ++ chunk :: after).flatten = before.flatten ++ (chunk :: after).flatten := by simp
    by_cases hfits : Fits before.flatten chunk
    · exact .inl hfits
    · refine .inr ?_
      cases @receiveAll_reached _ parse before with
      | running herror hbuffer hdelivered hfault hall =>
        -- This chunk closes the channel, which has passed on the lines before it.
        have hreceived : receiveAll parse (before ++ [chunk]) = { receiveAll parse before with
            buffer := unfinished '\n' before.flatten ++ chunk
            closedError := some "Provider response line exceeds its message bound." } := by
          rw [receiveAll, List.foldl_append]
          change receive parse (receiveAll parse before) chunk = _
          rw [receive, if_neg (not_not.2 herror)]
          dsimp only
          rw [hbuffer, if_pos (not_le.1 hfits)]
        rw [List.append_cons] at hmeets ⊢
        obtain ⟨hfaulty, hobjects⟩ := hmeets.closed (by rw [hreceived]; simp)
        rw [hreceived] at hobjects
        exact ⟨hfaulty, hdelivered.symm.trans hobjects⟩
      | faulty herror hdelivered hfault =>
        obtain ⟨hobjects, hsame⟩ := objects_append_fault hfault (chunk :: after).flatten
        rw [hflatten]
        exact ⟨hsame ▸ hfault, hobjects.symm⟩
      | beyond herror first other rest hbefore hbeyond hdelivered =>
        obtain ⟨hfaulty, hobjects⟩ := hmeets.closed herror
        refine ⟨hfaulty, ?_⟩
        have hfirst : objects parse first.flatten <+: objects parse before.flatten := by
          rw [hbefore, List.flatten_append]
          exact objects_prefix _ _
        have hall : objects parse before.flatten <+: objects parse (before ++ chunk :: after).flatten := by
          rw [hflatten]
          exact objects_prefix _ _
        rw [← hdelivered, hobjects] at hfirst
        exact hall.eq_of_length (le_antisymm hall.length_le hfirst.length_le)
  · intro h
    cases @receiveAll_reached _ parse chunks with
    | running herror hbuffer hdelivered hfault hfits => exact ⟨hdelivered, fun _ => herror⟩
    | faulty herror hdelivered hfault => exact ⟨hdelivered, fun hnone => absurd hnone hfault⟩
    | beyond herror before chunk after hchunks hbeyond hdelivered =>
      obtain hfits | ⟨hfault, hobjects⟩ := h before chunk after hchunks
      · exact absurd hfits hbeyond
      · exact ⟨hdelivered.trans hobjects, fun hnone => absurd hnone hfault⟩

/-- `JSON.parse` on an empty object with spaces in it. -/
def parsePadded (line : String) : Parsed Unit :=
  if line.toList.filter (· ≠ ' ') = ['{', '}'] then .object () else .invalid

def paddedLine (n : ℕ) : List Char := '{' :: (List.replicate n ' ' ++ ['}'])

theorem byteLength_paddedLine (n : ℕ) : byteLength (paddedLine n) = n + 2 := by
  simp [byteLength, paddedLine, Char.utf8Size]
  omega

theorem wanted_paddedLine (n : ℕ) : wanted parsePadded [paddedLine n] = ([()], none) := by
  have htrim : JsText.trim (String.ofList (paddedLine n)) = String.ofList (paddedLine n) := by
    apply JsText.trim_eq_self
    · simp [paddedLine]
      decide
    · simp [paddedLine, List.getLast?_cons]
      decide
  have hparse : parsePadded (String.ofList (paddedLine n)) = .object () := by
    simp [parsePadded, paddedLine]
  rw [wanted, htrim, if_neg (by simp [paddedLine]), hparse]
  rfl

/-- A line of 16 MiB comes in byte by byte, and its end in one chunk with the start of the next line. -/
theorem short_lines_refused : ¬ ∀ (Obj : Type) (parse : String → Parsed Obj) (chunks : List (List Char)),
    (∀ line ∈ complete '\n' chunks.flatten, byteLength line ≤ providerMessageMaxBytes) →
      fault parse chunks.flatten = none → Meets parse chunks := by
  intro h
  obtain ⟨n, hn⟩ : ∃ n : ℕ, n = 16777214 := ⟨_, rfl⟩
  have hplain : '\n' ∉ paddedLine n := by simp [paddedLine, List.mem_replicate]
  have hsize := byteLength_paddedLine n
  have hbytes : ((paddedLine n).map fun c => [c]).flatten = paddedLine n := by
    rw [← List.flatMap_def, List.flatMap_singleton']
  have hflatten : (((paddedLine n).map fun c => [c]) ++ [['\n', '{']]).flatten = paddedLine n ++ '\n' :: ['{'] := by
    rw [List.flatten_append, hbytes]
    rfl
  have hlines : complete '\n' (paddedLine n ++ '\n' :: ['{']) = [paddedLine n] := by
    rw [complete, split_cons hplain]
    rfl
  have hfault : fault parsePadded (paddedLine n ++ '\n' :: ['{']) = none := by rw [fault, hlines, wanted_paddedLine]
  have hmeets := h Unit parsePadded (((paddedLine n).map fun c => [c]) ++ [['\n', '{']])
    (fun line hline => ?_) (by rw [hflatten, hfault])
  · obtain hfits | ⟨hfaulty, -⟩ := (meets_iff parsePadded _).1 hmeets _ _ [] rfl
    · have hrest : unfinished '\n' (paddedLine n) = paddedLine n := by
        rw [unfinished, split, foldl_feed_of_notMem hplain, List.nil_append]
      have hend : byteLength ['\n', '{'] = 2 := by decide
      rw [Fits, hbytes, hrest, byteLength, List.map_append, List.sum_append, ← byteLength, ← byteLength, hsize, hend,
        hn, providerMessageMaxBytes] at hfits
      omega
    · exact hfaulty ((congrArg (fault parsePadded) hflatten).trans hfault)
  · rw [hflatten, hlines, List.mem_singleton] at hline
    rw [hline, hsize, hn, providerMessageMaxBytes]

end JsonLines
