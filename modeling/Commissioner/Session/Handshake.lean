import Commissioner.Link.Script
import Commissioner.Tls.Exchange

/-!
# Handshakes

A handshake turns a raw link into one on which records may travel, or refuses to.
It takes the link over while it lasts, so a link that it does not hand back is
let go. A handshake is either given by what comes of it, or carried out by TLS. The
client then writes what it owes, reads what comes, and goes on until the exchange
fails, the deadline passes or the handshake is dropped: no answer that is given
beforehand can make it succeed.
-/

set_option autoImplicit false

namespace Commissioner

/-- What comes of a handshake. -/
inductive Verdict where
  /-- The link itself is handed back. -/
  | accept
  /-- The handshake fails with this fault. -/
  | refuse (fault : Fault)
  /-- The far end does not bear the name asked for. -/
  | refuseName
  /-- The link is let go and another one handed back. -/
  | replace (link : Link)
  deriving DecidableEq

inductive Handshake where
  /-- One that comes to a verdict after some time, or never. -/
  | settled (delay : Option Nat) (verdict : Verdict)
  /-- One carried out by TLS, with the authorities that are trusted. -/
  | tls (authorities : List Authority)
  deriving DecidableEq

/-- How a handshake ended. -/
inductive Negotiated where
  /-- With a link on which records may travel. -/
  | secured (link : Link)
  /-- With a fault. -/
  | refused (fault : Fault)
  /-- Not within its deadline. -/
  | expired
  /-- It was dropped. -/
  | dropped
  deriving DecidableEq

namespace Handshake

/-- What a verdict makes of a link, and what it lets go. -/
def settle (verdict : Verdict) (name : String) (link : Link) (timeline : Timeline) :
    Negotiated × Timeline :=
  match verdict with
  | .accept => (.secured link, timeline)
  | .refuse fault => (.refused fault, timeline.note (.released link.id))
  | .refuseName =>
      (.refused ⟨.permissionDenied, some ("peer is not " ++ name)⟩,
        timeline.note (.released link.id))
  | .replace other => (.secured other, timeline.note (.released link.id))

/-! ## TLS -/

/-- What became of octets that were to be sent. -/
inductive Sent where
  /-- They were taken and passed on, by a moment. -/
  | done (far : Script) (now : Nat)
  /-- Sending them failed, at a moment. -/
  | fault (fault : Fault) (now : Nat)
  /-- They are not taken, or not passed on, in time. -/
  | stalled
  deriving DecidableEq

/-- Sends so many octets. What they are plays no part. Whatever was taken is passed on, also
when the rest is not taken. -/
def send (limit now : Nat) (far : Script) (count : Nat) : Sent :=
  if count = 0 then .done far now
  else
    match Script.writeAll limit far.acceptances (List.replicate count 0) now with
    | (_, .fault fault, _, now) => .fault fault now
    | (pieces, .stalled, _, now) =>
        match far.flush limit now with
        | (.fault fault, _, now) => if pieces.isEmpty then .stalled else .fault fault now
        | _ => .stalled
    | (_, .done, acceptances, now) =>
        match { far with acceptances := acceptances }.flush limit now with
        | (.fault fault, _, now) => .fault fault now
        | (.stalled, _, _) => .stalled
        | (.done, far, now) => .done far now

/-- Sending leaves as much to read as before. -/
theorem unread_of_send {limit now later : Nat} {far after : Script} {count : Nat}
    (sent : send limit now far count = .done after later) : after.unread = far.unread := by
  unfold send at sent
  split at sent
  · cases sent
    rfl
  · split at sent
    next => cases sent
    next =>
      split at sent
      next => split at sent <;> cases sent
      next => cases sent
    next _ acceptances moment _ =>
      have kept := Script.arrivals_flush { far with acceptances := acceptances } limit moment
      split at sent
      next => cases sent
      next => cases sent
      next flushed =>
        cases sent
        rw [flushed] at kept
        rw [Script.unread, kept, Script.unread]

/-- Follows an exchange on a link until it fails, expires or is dropped. What the
client owes is sent before anything is read. -/
def followTls (link : Link) (deadline limit : Nat) (exchange : Tls.Exchange)
    (timeline : Timeline) : Negotiated × Timeline :=
  match _sent : send (min deadline limit) timeline.now link.far exchange.owed with
  | .fault fault now => (.refused fault, (timeline.advance now).note (.released link.id))
  | .stalled =>
      match timeline.wait none (some deadline) limit with
      | (.dropped, timeline) => (.dropped, timeline.note (.released link.id))
      | (_, timeline) => (.expired, timeline.note (.released link.id))
  | .done far now =>
      let timeline := timeline.advance now
      if exchange.isFull then
        (.refused ⟨.invalidData, some "message buffer full"⟩, timeline.note (.released link.id))
      else
        match timeline.wait far.readDue (some deadline) limit with
        | (.expired, timeline) => (.expired, timeline.note (.released link.id))
        | (.dropped, timeline) => (.dropped, timeline.note (.released link.id))
        | (.ready, timeline) =>
            match _given : far.take exchange.nextRead with
            | (.finished, _) =>
                (.refused ⟨.unexpectedEof, some "tls handshake eof"⟩,
                  timeline.note (.released link.id))
            | (.fault fault, _) => (.refused fault, timeline.note (.released link.id))
            | (.octets octets, far) =>
                match exchange.settled.hear octets with
                | .error flaw =>
                    (.refused ⟨.invalidData, some flaw.message⟩,
                      timeline.note (.released link.id))
                | .ok exchange =>
                    followTls { link with far := far } deadline limit exchange timeline
termination_by link.far.unread
decreasing_by
  have kept := unread_of_send _sent
  have less := Script.unread_take _given
  omega

/-- Carries out TLS on a link: the name has to be one that a certificate can
bear. -/
def carryOutTls (authorities : List Authority) (name : String) (link : Link)
    (deadline limit : Nat) (timeline : Timeline) : Negotiated × Timeline :=
  match Tls.ServerName.ofText? name with
  | some name => followTls link deadline limit (.start name authorities) timeline
  | none =>
      (.refused ⟨.invalidInput, some "invalid dns name"⟩, timeline.note (.released link.id))

/-- Carries out a handshake against a name on a link, under a deadline. -/
def negotiate (handshake : Handshake) (name : String) (link : Link) (deadline limit : Nat)
    (timeline : Timeline) : Negotiated × Timeline :=
  match handshake with
  | .tls authorities => carryOutTls authorities name link deadline limit timeline
  | .settled delay verdict =>
      let timeline := timeline.note (.handshake name)
      match timeline.wait (delay.map (timeline.now + ·)) (some deadline) limit with
      | (.ready, timeline) => settle verdict name link timeline
      | (.expired, timeline) => (.expired, timeline.note (.released link.id))
      | (.dropped, timeline) => (.dropped, timeline.note (.released link.id))

end Handshake

end Commissioner
