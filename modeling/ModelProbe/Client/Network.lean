import ModelProbe.Client.Basic
import ModelProbe.Client.Config
import ModelProbe.Grpc.Transport
import ModelProbe.Rest.Transport

/-! From an accepted configuration to a client.

A network carries both protocols; a connection picks the one it is configured for. -/
namespace ModelProbe

structure Network (σ : Type) where
  http : Rest.Exchange σ
  service : Grpc.Service σ

namespace Connection

variable {σ : Type}

def transport (c : Connection) (network : Network σ) : Transport σ :=
  match c.protocol with
  | .rest => Rest.transport network.http c.endpoint
  | .grpc => Grpc.transport network.service c.endpoint c.timeoutMs.isSome

def client (c : Connection) (network : Network σ) (requestId : σ → String) : Client σ :=
  ⟨c.transport network, c.codec, requestId⟩

end Connection

end ModelProbe
