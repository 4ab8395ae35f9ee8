import Mathlib.Data.List.DropRight
import Mathlib.Algebra.Order.Ring.Int

/-!
The durations of the server, from the environment to the ticker of a socket:
internal/config/config.go, the defaults of `NewHub` in internal/ws/hub.go and the
interval of `writeLoop` in internal/ws/connection.go. An `int` and a `time.Duration`
are 64 bits wide and wrap; a `time.Duration` counts nanoseconds.
-/

namespace OnlyTwo.ServerConfig

section Parsing

/-- `unicode.IsSpace`. -/
def isSpace (char : Char) : Bool :=
  let code := char.toNat
  decide (9 ≤ code ∧ code ≤ 13) || decide (8192 ≤ code ∧ code ≤ 8202) ||
    [32, 133, 160, 5760, 8232, 8233, 8239, 8287, 12288].contains code

/-- `strings.TrimSpace`. -/
def trimSpace (text : String) : String :=
  String.ofList ((text.toList.dropWhile isSpace).rdropWhile isSpace)

/-- `strings.Split` at commas. -/
def splitCommas (text : String) : List String :=
  (text.toList.splitOn ',').map String.ofList

def digitsValue : Nat → List Char → Option Nat
  | value, [] => some value
  | value, char :: rest =>
      if char.isDigit then digitsValue (10 * value + (char.toNat - '0'.toNat)) rest else none

def unsigned : List Char → Option Nat
  | [] => none
  | chars => digitsValue 0 chars

/-- A value out of range is `ErrRange`. -/
def inRange (value : Int) : Option Int64 :=
  if Int64.minValue.toInt ≤ value ∧ value ≤ Int64.maxValue.toInt then some (Int64.ofInt value)
  else none

/-- `strconv.Atoi`. -/
def atoi (text : String) : Option Int64 :=
  match text.toList with
  | '-' :: rest => (unsigned rest).bind fun value => inRange (-value)
  | '+' :: rest => (unsigned rest).bind fun value => inRange value
  | chars => (unsigned chars).bind fun value => inRange value

end Parsing

section Environment
variable (env : String → String)

def envString (key fallback : String) : String :=
  let v := trimSpace (env key)
  if v ≠ "" then v else fallback

def envInt (key : String) (fallback : Int64) : Int64 :=
  let v := trimSpace (env key)
  if v = "" then fallback
  else
    match atoi v with
    | none => fallback
    | some parsed => if parsed ≤ 0 then fallback else parsed

def envList (key : String) (fallback : List String) : List String :=
  let v := trimSpace (env key)
  if v = "" then fallback
  else
    let out := ((splitCommas v).map trimSpace).filter (· ≠ "")
    if out = [] then fallback else out

end Environment

/-- `time.Second`. -/
def second : Int64 := 1000000000

structure Config where
  addr : String
  allowedOrigins : List String
  trustedProxies : List String
  sessionTtl : Int64
  maxFrameBytes : Int64
  sendBufferSize : Int64
  rateLimitPerMinute : Int64
  maxSessionsPerIp : Int64
  maxConnectionsPerIp : Int64
  writeWait : Int64
  pongWait : Int64
  contentSecurityPolicy : String

def fromEnv (env : String → String) : Config where
  addr := envString env "ONLYTWO_ADDR" ":8080"
  allowedOrigins := envList env "ONLYTWO_ALLOWED_ORIGINS" []
  trustedProxies := envList env "ONLYTWO_TRUSTED_PROXIES" []
  sessionTtl := envInt env "ONLYTWO_SESSION_TTL_SECONDS" 3600 * second
  maxFrameBytes := envInt env "ONLYTWO_MAX_FRAME_BYTES" (256 * 1024)
  sendBufferSize := envInt env "ONLYTWO_SEND_BUFFER_SIZE" 128
  rateLimitPerMinute := envInt env "ONLYTWO_RATE_LIMIT_PER_MINUTE" 600
  maxSessionsPerIp := envInt env "ONLYTWO_MAX_SESSIONS_PER_IP" 64
  maxConnectionsPerIp := envInt env "ONLYTWO_MAX_CONNECTIONS_PER_IP" 128
  writeWait := envInt env "ONLYTWO_WRITE_WAIT_SECONDS" 10 * second
  pongWait := envInt env "ONLYTWO_PONG_WAIT_SECONDS" 60 * second
  contentSecurityPolicy := envString env "ONLYTWO_CSP" (String.intercalate "; " [
    "default-src 'self'",
    "script-src 'self' blob:",
    "script-src-elem 'self' blob:",
    "worker-src 'self' blob:",
    "connect-src 'self' ws: wss:",
    "img-src 'self' blob: data:",
    "media-src 'self' blob:",
    "style-src 'self' 'unsafe-inline'",
    "object-src 'none'",
    "base-uri 'none'",
    "frame-ancestors 'none'",
    "form-action 'none'"])

/-- `Config` of internal/ws. -/
structure HubConfig where
  allowedOrigins : List String
  trustedProxies : List String
  maxMessageSize : Int64
  sendBufferSize : Int64
  writeWait : Int64
  pongWait : Int64
  rateLimitPerMinute : Int64
  maxSessionsPerIp : Int64
  maxConnectionsPerIp : Int64

/-- What `main` passes on. -/
def Config.hub (config : Config) : HubConfig where
  allowedOrigins := config.allowedOrigins
  trustedProxies := config.trustedProxies
  maxMessageSize := config.maxFrameBytes
  sendBufferSize := config.sendBufferSize
  writeWait := config.writeWait
  pongWait := config.pongWait
  rateLimitPerMinute := config.rateLimitPerMinute
  maxSessionsPerIp := config.maxSessionsPerIp
  maxConnectionsPerIp := config.maxConnectionsPerIp

def orDefault (value fallback : Int64) : Int64 := if value ≤ 0 then fallback else value

/-- The configuration that `NewHub` keeps. -/
def newHub (config : HubConfig) : HubConfig :=
  { config with
    maxMessageSize := orDefault config.maxMessageSize (256 * 1024)
    sendBufferSize := orDefault config.sendBufferSize 128
    writeWait := orDefault config.writeWait (10 * second)
    pongWait := orDefault config.pongWait (60 * second) }

/-- The argument of `time.NewTicker` in `writeLoop`, which panics unless it is positive. -/
def pingInterval (config : HubConfig) : Int64 := config.pongWait * 9 / 10

section Durations
variable {env : String → String}

theorem envInt_pos (env : String → String) (key : String) {fallback : Int64}
    (positive : 0 < fallback.toInt) : 0 < (envInt env key fallback).toInt := by
  simp only [envInt]
  split
  · exact positive
  · split
    · exact positive
    · split
      · exact positive
      · rename_i parsed _ large
        exact Int64.lt_iff_toInt_lt.mp (Int64.not_le.mp large)

theorem second_toInt : second.toInt = 1000000000 := by decide

/-- The duration is positive and as many seconds long. -/
def Lasts (duration seconds : Int64) : Prop :=
  0 < duration.toInt ∧ duration.toInt = seconds.toInt * 1000000000

/-- A number of seconds fits as long as its nanoseconds do. -/
theorem lasts_iff {seconds : Int64} (positive : 0 < seconds.toInt) :
    Lasts (seconds * second) seconds ↔ seconds.toInt ≤ 9223372036 := by
  constructor
  · rintro ⟨_, exact⟩
    have below := (seconds * second).toInt_lt
    omega
  · intro small
    have kept : (seconds * second).toInt = seconds.toInt * 1000000000 := by
      rw [Int64.toInt_mul, second_toInt]
      exact Int.bmod_eq_of_le (by omega) (by omega)
    exact ⟨by omega, kept⟩

/-- The second multiplication of `PongWait` overflows nine times earlier than the first. -/
theorem pingInterval_iff {config : HubConfig} {seconds : Int64}
    (lasts : Lasts config.pongWait seconds) :
    (0 < (pingInterval config).toInt ∧
        (pingInterval config).toInt = config.pongWait.toInt * 9 / 10) ↔
      seconds.toInt ≤ 1024819115 := by
  obtain ⟨positive, exact⟩ := lasts
  have divided : (pingInterval config).toInt = (config.pongWait * 9).toInt.tdiv 10 :=
    Int64.toInt_div_of_ne_right _ _ (by decide)
  have product : (config.pongWait * 9).toInt = (config.pongWait.toInt * 9).bmod (2 ^ 64) :=
    Int64.toInt_mul _ _
  constructor
  · rintro ⟨_, same⟩
    have below := (config.pongWait * 9).toInt_lt
    by_contra large
    rw [divided] at same
    -- The product has wrapped: its tenth is too small or not positive.
    rcases Int.le_total 0 (config.pongWait * 9).toInt with sign | sign
    · rw [Int.tdiv_eq_ediv_of_nonneg sign] at same
      omega
    · have nonpositive : (config.pongWait * 9).toInt.tdiv 10 ≤ 0 :=
        (Int.tdiv_le_tdiv (by decide) sign).trans_eq (Int.zero_tdiv 10)
      omega
  · intro small
    have kept : (config.pongWait * 9).toInt = config.pongWait.toInt * 9 := by
      rw [product]
      exact Int.bmod_eq_of_le (by omega) (by omega)
    rw [divided, kept, Int.tdiv_eq_ediv_of_nonneg (by omega)]
    omega

/-- The durations are those that the operator asked for, and no product wraps. -/
structure AsAsked (env : String → String) : Prop where
  sessionTtl : Lasts (fromEnv env).sessionTtl (envInt env "ONLYTWO_SESSION_TTL_SECONDS" 3600)
  writeWait : Lasts (fromEnv env).writeWait (envInt env "ONLYTWO_WRITE_WAIT_SECONDS" 10)
  pongWait : Lasts (fromEnv env).pongWait (envInt env "ONLYTWO_PONG_WAIT_SECONDS" 60)
  ping : 0 < (pingInterval (newHub (fromEnv env).hub)).toInt ∧
    (pingInterval (newHub (fromEnv env).hub)).toInt = (fromEnv env).pongWait.toInt * 9 / 10

theorem orDefault_pos {value fallback : Int64} (positive : 0 < value.toInt) :
    orDefault value fallback = value := by
  refine if_neg fun small => ?_
  have bound := Int64.le_iff_toInt_le.mp small
  rw [Int64.toInt_zero] at bound
  omega

/-- The fallback of `NewHub` does not touch a duration that lasts. -/
theorem newHub_pongWait {config : Config} {seconds : Int64}
    (lasts : Lasts config.pongWait seconds) : (newHub config.hub).pongWait = config.pongWait :=
  orDefault_pos lasts.1

/-- Exactly as long as no product of the configured seconds leaves the 64 bits. -/
theorem asAsked_iff (env : String → String) :
    AsAsked env ↔
      (envInt env "ONLYTWO_SESSION_TTL_SECONDS" 3600).toInt ≤ 9223372036 ∧
      (envInt env "ONLYTWO_WRITE_WAIT_SECONDS" 10).toInt ≤ 9223372036 ∧
      (envInt env "ONLYTWO_PONG_WAIT_SECONDS" 60).toInt ≤ 1024819115 := by
  have ttl := lasts_iff (envInt_pos env "ONLYTWO_SESSION_TTL_SECONDS"
    (by decide : 0 < (3600 : Int64).toInt))
  have write := lasts_iff (envInt_pos env "ONLYTWO_WRITE_WAIT_SECONDS"
    (by decide : 0 < (10 : Int64).toInt))
  have pong := lasts_iff (envInt_pos env "ONLYTWO_PONG_WAIT_SECONDS"
    (by decide : 0 < (60 : Int64).toInt))
  constructor
  · intro asked
    have kept := newHub_pongWait asked.pongWait
    refine ⟨ttl.mp asked.sessionTtl, write.mp asked.writeWait, ?_⟩
    have held : Lasts (newHub (fromEnv env).hub).pongWait
        (envInt env "ONLYTWO_PONG_WAIT_SECONDS" 60) := kept ▸ asked.pongWait
    exact (pingInterval_iff held).mp (kept ▸ asked.ping)
  · rintro ⟨first, second, third⟩
    have lasts : Lasts (fromEnv env).pongWait (envInt env "ONLYTWO_PONG_WAIT_SECONDS" 60) :=
      pong.mpr (by omega)
    have kept := newHub_pongWait lasts
    refine ⟨ttl.mpr first, write.mpr second, lasts, ?_⟩
    have held : Lasts (newHub (fromEnv env).hub).pongWait
        (envInt env "ONLYTWO_PONG_WAIT_SECONDS" 60) := kept ▸ lasts
    exact kept ▸ (pingInterval_iff held).mpr third

/-- A number of seconds that every check admits and that stops the ticker. -/
def pongOnly (key : String) : String :=
  if key = "ONLYTWO_PONG_WAIT_SECONDS" then "1024819116" else ""

theorem ping_interval_wraps :
    atoi (trimSpace (pongOnly "ONLYTWO_PONG_WAIT_SECONDS")) = some 1024819116 ∧
      (fromEnv pongOnly).pongWait.toInt = 1024819116 * 1000000000 ∧
      (pingInterval (newHub (fromEnv pongOnly).hub)).toInt < 0 ∧ ¬ AsAsked pongOnly := by
  have wrapped : (pingInterval (newHub (fromEnv pongOnly).hub)).toInt < 0 := by decide +kernel
  refine ⟨by decide +kernel, by decide +kernel, wrapped, ?_⟩
  intro asked
  exact Int.lt_asymm asked.ping.1 wrapped

end Durations

end OnlyTwo.ServerConfig
