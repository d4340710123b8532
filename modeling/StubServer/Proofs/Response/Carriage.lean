import Mathlib.Data.List.Induction
import StubServer.Response.Basic

namespace StubServer.Response

namespace Source

variable {α : Type}

def Begins (source : Source α) (items : List α) : Prop :=
  ∀ (i : Nat) (a : α), items[i]? = some a → (source i).item = some (.ok a)

/-- The source fails here, or it has ended. -/
def StopsAt (source : Source α) (i : Nat) : Prop := ∀ a, (source i).item ≠ some (.ok a)

/-- All items before the first failure, or before the end. -/
structure Yields (source : Source α) (items : List α) : Prop where
  begins : source.Begins items
  stops : source.StopsAt items.length

variable {source : Source α} {items : List α} {a : α}

theorem begins_concat :
    source.Begins (items ++ [a]) ↔ source.Begins items ∧ (source items.length).item = some (.ok a) := by
  constructor
  · intro h
    refine ⟨fun i b hi => ?_, h items.length a List.getElem?_concat_length⟩
    have hlt := (List.getElem?_eq_some_iff.mp hi).1
    exact h i b (List.getElem?_append_left hlt ▸ hi)
  · rintro ⟨h, ha⟩ i b hi
    by_cases hlt : i < items.length
    · rw [List.getElem?_append_left hlt] at hi
      exact h i b hi
    · have hle := (List.getElem?_eq_some_iff.mp hi).1
      rw [List.length_append, List.length_singleton] at hle
      obtain rfl : i = items.length := by omega
      rw [List.getElem?_concat_length] at hi
      exact Option.some.inj hi ▸ ha

theorem begins_of_prefix {more : List α} (h : source.Begins more) (hp : items <+: more) :
    source.Begins items := by
  obtain ⟨rest, rfl⟩ := hp
  intro i a hi
  exact h i a (List.getElem?_append_left (List.getElem?_eq_some_iff.mp hi).1 ▸ hi)

theorem prefix_of_begins {more : List α} (h : source.Begins items) (hm : source.Begins more)
    (hle : items.length ≤ more.length) : items <+: more := by
  rw [List.prefix_iff_getElem?]
  intro i hi
  obtain ⟨b, hb⟩ : ∃ b, more[i]? = some b := ⟨_, List.getElem?_eq_getElem (Nat.lt_of_lt_of_le hi hle)⟩
  have hsame := (h i _ (List.getElem?_eq_getElem hi)).symm.trans (hm i b hb)
  injection hsame with hsame
  injection hsame with hsame
  rw [hb, hsame]

theorem length_le_of_yields {more : List α} (h : source.Yields items) (hm : source.Begins more) :
    more.length ≤ items.length := by
  by_contra hlt
  have hnext := hm items.length _ (List.getElem?_eq_getElem (Nat.lt_of_not_le hlt))
  exact h.stops _ hnext

theorem begins_ofList {xs : List α} : (ofList xs).Begins items ↔ items <+: xs := by
  have hitem : ∀ i a, (ofList xs i).item = some (.ok a) ↔ xs[i]? = some a := by
    intro i a
    simp [ofList]
  constructor
  · intro h
    rw [List.prefix_iff_getElem?]
    intro i hi
    exact (hitem i _).mp (h i _ (List.getElem?_eq_getElem hi))
  · rintro ⟨rest, rfl⟩ i a hi
    exact (hitem i a).mpr (List.getElem?_append_left (List.getElem?_eq_some_iff.mp hi).1 ▸ hi)

theorem yields_ofList {xs : List α} : (ofList xs).Yields items ↔ items = xs := by
  constructor
  · intro h
    have hp := begins_ofList.mp h.begins
    have hall : (ofList xs).Begins xs := begins_ofList.mpr (List.prefix_refl xs)
    exact hp.eq_of_length_le (length_le_of_yields h hall)
  · rintro rfl
    refine ⟨begins_ofList.mpr (List.prefix_refl items), fun a ha => ?_⟩
    simp [ofList] at ha

def encoded (encode : α → Bytes) (source : Source α) : Source Bytes :=
  source.mapTry fun a => .ok (encode a)

variable {encode : α → Bytes}

theorem item_encoded (i : Nat) (bytes : Bytes) : ((source.encoded encode) i).item = some (.ok bytes) ↔
    ∃ a, (source i).item = some (.ok a) ∧ encode a = bytes := by
  simp only [encoded, mapTry]
  cases (source i).item with
  | none => simp
  | some item => cases item <;> simp [bind, Except.bind]

theorem stopsAt_encoded (i : Nat) : (source.encoded encode).StopsAt i ↔ source.StopsAt i := by
  constructor
  · intro h a ha
    exact h (encode a) ((item_encoded i _).mpr ⟨a, ha, rfl⟩)
  · intro h bytes hb
    obtain ⟨a, ha, -⟩ := (item_encoded i bytes).mp hb
    exact h a ha

theorem begins_encoded {frames : List Bytes} : (source.encoded encode).Begins frames ↔
    ∃ items, source.Begins items ∧ frames = items.map encode := by
  constructor
  · intro h
    induction frames using List.reverseRecOn with
    | nil => exact ⟨[], fun i a hi => (nomatch hi), rfl⟩
    | append_singleton frames bytes ih =>
      obtain ⟨hbegins, hlast⟩ := begins_concat.mp h
      obtain ⟨items, hitems, rfl⟩ := ih hbegins
      obtain ⟨a, ha, rfl⟩ := (item_encoded _ bytes).mp hlast
      rw [List.length_map] at ha
      exact ⟨items ++ [a], begins_concat.mpr ⟨hitems, ha⟩, by simp⟩
  · rintro ⟨items, h, rfl⟩ i bytes hi
    rw [List.getElem?_map, Option.map_eq_some_iff] at hi
    obtain ⟨a, ha, hbytes⟩ := hi
    exact (item_encoded i bytes).mpr ⟨a, h i a ha, hbytes⟩

theorem yields_encoded {frames : List Bytes} : (source.encoded encode).Yields frames ↔
    ∃ items, source.Yields items ∧ frames = items.map encode := by
  constructor
  · rintro ⟨hbegins, hstops⟩
    obtain ⟨items, hitems, rfl⟩ := begins_encoded.mp hbegins
    rw [stopsAt_encoded, List.length_map] at hstops
    exact ⟨items, ⟨hitems, hstops⟩, rfl⟩
  · rintro ⟨items, h, rfl⟩
    refine ⟨begins_encoded.mpr ⟨items, h.begins, rfl⟩, ?_⟩
    rw [stopsAt_encoded, List.length_map]
    exact h.stops

end Source

/-- Where the producer is in its source when it has put so many items into the buffer. -/
def Producer.Follows (source : Source Bytes) (sent : Nat) : Producer → Prop
  | .ready i | .asking i => i = sent
  | .sending i bytes => i = sent ∧ (source i).item = some (.ok bytes)
  | .ended => source.StopsAt sent

namespace Pump

/-- What has been taken, and behind it what is in the buffer, is the beginning of the source, and the
producer goes on there. A body that was given up keeps nothing. -/
structure Carries (source : Source Bytes) (frames : List Bytes) (pump : Pump) : Prop where
  begins : source.Begins (frames ++ pump.buffer)
  follows : pump.wanted → pump.producer.Follows source (frames ++ pump.buffer).length
  dropped : pump.wanted = false → pump.buffer = []

variable {source : Source Bytes} {frames : List Bytes} {pump : Pump}

theorem carries_start (source : Source Bytes) : start.Carries source [] := by
  refine ⟨fun i a hi => ?_, fun _ => rfl, fun _ => rfl⟩
  cases hi

theorem Carries.end_producer (h : pump.Carries source frames)
    (hstops : pump.wanted → source.StopsAt (frames ++ pump.buffer).length) :
    Carries source frames { pump with producer := .ended } :=
  ⟨h.begins, hstops, h.dropped⟩

theorem carries_produce (h : pump.Carries source frames) (verbose : Bool) :
    (pump.produce source verbose).1.Carries source frames := by
  obtain ⟨producer, pulled, buffer, wanted, delivered⟩ := pump
  cases wanted with
  | false =>
    have hgone := h.end_producer fun hw => nomatch hw
    cases producer with
    | ready | asking | sending => exact hgone
    | ended => exact h
  | true =>
    have hfollows := h.follows rfl
    cases producer with
    | ready i => exact ⟨h.begins, fun _ => hfollows, h.dropped⟩
    | asking i =>
      have hi : i = (frames ++ buffer).length := hfollows
      subst hi
      simp only [produce, Bool.not_true, Bool.false_eq_true, if_false]
      cases hitem : (source (frames ++ buffer).length).item with
      | none => exact h.end_producer fun _ a ha => nomatch hitem.symm.trans ha
      | some item =>
        cases item with
        | error reason => exact h.end_producer fun _ a ha => nomatch hitem.symm.trans ha
        | ok bytes => exact ⟨h.begins, fun _ => ⟨rfl, hitem⟩, h.dropped⟩
    | sending i bytes =>
      obtain ⟨hi, hitem⟩ := hfollows
      change i = (frames ++ buffer).length at hi
      subst hi
      simp only [produce, Bool.not_true, Bool.false_eq_true, if_false]
      split
      · refine ⟨?_, fun _ => ?_, fun hw => nomatch hw⟩
        · rw [← List.append_assoc]
          exact Source.begins_concat.mpr ⟨h.begins, hitem⟩
        · simp [Producer.Follows, Nat.add_assoc]
      · exact h
    | ended => exact h

theorem carries_receive {bytes : Bytes} {rest : Pump} (h : pump.Carries source frames)
    (hr : pump.receive = (.frame bytes, rest)) : rest.Carries source (frames ++ [bytes]) := by
  obtain ⟨producer, pulled, buffer, wanted, delivered⟩ := pump
  cases buffer with
  | nil =>
    simp only [receive] at hr
    split at hr <;> cases hr
  | cons head tail =>
    cases hr
    have happend : frames ++ [bytes] ++ tail = frames ++ bytes :: tail := List.append_cons .. |>.symm
    refine ⟨?_, fun hw => ?_, fun hw => ?_⟩
    · exact happend ▸ h.begins
    · exact happend ▸ h.follows hw
    · cases h.dropped hw

theorem yields_of_finished {rest : Pump} (h : pump.Carries source frames) (hwanted : pump.wanted)
    (hr : pump.receive = (.finished, rest)) : source.Yields frames := by
  have hbegins := h.begins
  have hfollows := h.follows hwanted
  cases hbuffer : pump.buffer with
  | cons bytes tail =>
    simp only [receive, hbuffer] at hr
    cases hr
  | nil =>
    rw [hbuffer, List.append_nil] at hbegins hfollows
    simp only [receive, hbuffer] at hr
    by_cases hended : pump.producer = .ended
    · rw [hended] at hfollows
      exact ⟨hbegins, hfollows⟩
    · rw [if_neg hended] at hr
      cases hr

theorem carries_drop (h : pump.Carries source frames) : pump.drop.Carries source frames := by
  refine ⟨?_, fun hw => (nomatch hw), fun _ => rfl⟩
  refine Source.begins_of_prefix h.begins ?_
  rw [drop, List.append_nil]
  exact List.prefix_append frames pump.buffer

end Pump

namespace Playback

variable {feed : Feed} {frames : List Bytes} {p : Playback}

theorem carries_produceUntil (h : p.pump.Carries feed.source frames) (time fuel : Nat) :
    (produceUntil feed time fuel p).pump.Carries feed.source frames := by
  induction fuel generalizing p with
  | zero => exact h
  | succ fuel ih =>
    rw [produceUntil]
    split
    · exact h
    · have hproduce : (p.produce feed).pump.Carries feed.source frames :=
        Pump.carries_produce h feed.verbose
      exact ih hproduce

theorem carries_pauseBefore (h : p.pump.Carries feed.source frames) (index : Nat) :
    (p.pauseBefore feed index).pump.Carries feed.source frames := by
  rw [pauseBefore]
  generalize (if index = 0 then feed.initialDelay else feed.chunkDelay) = pause
  by_cases hpause : pause = .zero
  · rwa [if_pos hpause]
  · rw [if_neg hpause]
    exact carries_produceUntil h _ _

theorem carries_receive (h : p.pump.Carries feed.source frames) (rounds : Nat) :
    (receive feed rounds p).2.pump.Carries feed.source (frames ++ (receive feed rounds p).1.toList) := by
  induction rounds generalizing p with
  | zero => exact (List.append_nil frames).symm ▸ h
  | succ rounds ih =>
    rw [receive]
    cases hr : p.pump.receive with
    | mk reception rest =>
      cases reception with
      | frame bytes => exact Pump.carries_receive h hr
      | finished => exact (List.append_nil frames).symm ▸ h
      | empty =>
        have hwork := carries_produceUntil h p.now enough
        dsimp only
        split
        · exact ih (carries_produceUntil hwork _ _)
        · exact ih hwork

theorem begins_read (h : p.pump.Carries feed.source frames) (most index : Nat) :
    feed.source.Begins (frames ++ (read feed most index p).1.map (·.2)) := by
  have htaken : ∀ {p : Playback} {frames : List Bytes}, p.pump.Carries feed.source frames →
      feed.source.Begins (frames ++ []) := by
    intro p frames h
    rw [List.append_nil]
    exact Source.begins_of_prefix h.begins (List.prefix_append _ _)
  induction most generalizing p frames index with
  | zero => exact htaken h
  | succ most ih =>
    have hreceive := carries_receive (carries_pauseBefore h index) 3
    generalize hr : receive feed 3 (p.pauseBefore feed index) = received at hreceive
    obtain ⟨bytes?, rest⟩ := received
    cases bytes? with
    | none =>
      simp only [read, hr, List.map_nil]
      exact htaken h
    | some bytes =>
      have hrest := ih hreceive (index + 1)
      rw [List.append_assoc] at hrest
      simp only [read, hr, List.map_cons]
      exact hrest

end Playback

theorem begins_readOut {response : Response} {feed : Feed} (h : response.body = .streamed feed)
    (now settle most : Nat) :
    feed.source.Begins ((response.readOut now settle most).transcript.frames.map (·.2)) := by
  have hstart : (Playback.start now).pump.Carries feed.source [] := Pump.carries_start feed.source
  have hsettled : ((Playback.start now).sleepUntil feed (now + settle)).pump.Carries feed.source [] :=
    Playback.carries_produceUntil hstart (now + settle) Playback.enough
  simp only [readOut, h]
  split
  · exact Playback.begins_read hstart most 0
  · exact Playback.begins_read hsettled most 0

end StubServer.Response
