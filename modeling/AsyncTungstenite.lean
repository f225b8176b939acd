import AsyncTungstenite.Engine
import AsyncTungstenite.Client
import AsyncTungstenite.Stream
import AsyncTungstenite.Run
import AsyncTungstenite.Inbound
import AsyncTungstenite.Independence
import AsyncTungstenite.Send
import AsyncTungstenite.Sink
import AsyncTungstenite.Split
import AsyncTungstenite.Allocation
import AsyncTungstenite.Refinement
import AsyncTungstenite.Lifetime
import AsyncTungstenite.Ownership
import AsyncTungstenite.Wakeup
import AsyncTungstenite.Program
import AsyncTungstenite.Registration
