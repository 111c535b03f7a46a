import OrderDesk.Duration
import OrderDesk.Json.Codec
import OrderDesk.Url.Basic

/-!
# Config — the settings of a client

Only the address of the service must be given; all else has a value of its own.  In JSON a span is a
number of whole seconds, rounded to the nearest.
-/

namespace OrderDesk

open Json (Codec Fields)

/-- The settings of a client. -/
structure Config where
  /-- The root of the service. -/
  baseUrl : Url
  /-- How long a request may take. -/
  timeout : Duration
  /-- How long before its expiry a token is replaced. -/
  refreshMargin : Duration
  /-- How long the opening of a stream may take. -/
  connectTimeout : Duration
  /-- How long a control request waits for its response. -/
  correlationTimeout : Duration
  /-- Whether a data stream is opened again after it ended. -/
  reconnect : Bool
deriving DecidableEq

namespace Config

/-- How long a request may take by default. -/
def defaultTimeout : Duration := .seconds 10

/-- How long before its expiry a token is replaced by default. -/
def defaultRefreshMargin : Duration := .seconds 60

/-- How long the opening of a stream may take by default. -/
def defaultConnectTimeout : Duration := .seconds 5

/-- How long a control request waits by default. -/
def defaultCorrelationTimeout : Duration := .seconds 5

/-- The default settings for a service. -/
def ofUrl (baseUrl : Url) : Config where
  baseUrl := baseUrl
  timeout := defaultTimeout
  refreshMargin := defaultRefreshMargin
  connectTimeout := defaultConnectTimeout
  correlationTimeout := defaultCorrelationTimeout
  reconnect := false

/-- A URL in JSON. -/
def urlCodec : Codec Url :=
  Codec.string.via Url.text fun text =>
    match Url.parse? text with
    | some url => .ok url
    | none => .error .unreadable

/-- A span in JSON, as whole seconds. -/
def secondsCodec : Codec Duration :=
  Codec.word.via (fun d => .ofNat d.roundedSeconds) fun n => .ok (.seconds n.toNat)

/-- Settings in JSON. -/
def codec : Codec Config :=
  ((Fields.required "base_url" baseUrl urlCodec).and <|
    (Fields.defaulted "timeout" timeout secondsCodec defaultTimeout).and <|
    (Fields.defaulted "refresh_margin" refreshMargin secondsCodec defaultRefreshMargin).and <|
    (Fields.defaulted "connect_timeout" connectTimeout secondsCodec defaultConnectTimeout).and <|
    (Fields.defaulted "correlation_timeout" correlationTimeout secondsCodec
      defaultCorrelationTimeout).and <|
    Fields.defaulted "reconnect" reconnect Codec.bool false).codec
    fun (baseUrl, timeout, refreshMargin, connectTimeout, correlationTimeout, reconnect) =>
      ⟨baseUrl, timeout, refreshMargin, connectTimeout, correlationTimeout, reconnect⟩

end Config

end OrderDesk
