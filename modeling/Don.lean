import Don.Net.Session.Agreement
import Don.Net.Session.Authority
import Don.Net.Session.Gate
import Don.Net.Session.MatchStart
import Don.Net.Evidence.Codec
import Don.Net.CommandCodec
import Don.Sim.World.Draws
import Don.Net.MsgCodec
import Don.Net.Tcp
import Don.Bhs.Vm.Isolation
import Don.Bhs.Vm.Termination
import Don.BhsCc.Termination
import Don.Sim.Victory.Winners
import Don.Sim.Victory.Wonder
import Don.Sim.Diplomacy.Tribute
import Don.Bhs.Elements
import Don.Sim.World.Digest
import Don.Sim.Save.Chunk
import Don.Sim.Save.OrderExact
import Don.Crossplay.Local
import Don.Crossplay.Remote
import Don.Crossplay.Refusal
import Don.Crossplay.Drain
import Don.Sim.Checksum
import Don.Sim.Mechanics
import Don.State.Burn
import Don.Sim.Lanes
import Don.Net.Stream
import Don.Coach.Gate
import Don.Sim.Wire
import Don.Bhs.Vm.Image
import Don.Sim.World.Snapshot
