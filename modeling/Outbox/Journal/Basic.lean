/-!
# The journal

What the library does it tells in a log, and each line of the log goes to the channel of
the part that writes it.  The channels have names of their own, known to those who read
the logs, so they are listed here once and for all.
-/

namespace Outbox

/-- How important a line is. -/
inductive LogLevel where
  | debug
  | info
  | warning
  deriving DecidableEq, Repr

/-- The name of a level. -/
def LogLevel.name : LogLevel → String
  | .debug => "DEBUG"
  | .info => "INFO"
  | .warning => "WARNING"

/-- The parts that write lines. -/
inductive Channel where
  /-- The dispatch of requests. -/
  | dispatch
  /-- The book of nonces. -/
  | nonces
  /-- The queue of pending transactions. -/
  | queue
  /-- The clients of the chains. -/
  | clients
  /-- The broadcast of signed transactions. -/
  | broadcast
  deriving DecidableEq, Repr

/-- The name of a channel. -/
def Channel.name : Channel → String
  | .dispatch => "txdispatch.core.dispatcher"
  | .nonces => "txdispatch.core.nonce_manager"
  | .queue => "txdispatch.core.tx_queue"
  | .clients => "txdispatch.services.chain_client"
  | .broadcast => "txdispatch.services.web3_sender"

/-- A line of the log. -/
structure LogLine where
  level : LogLevel
  channel : Channel
  message : String
  deriving DecidableEq

end Outbox
