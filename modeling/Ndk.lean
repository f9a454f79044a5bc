import Ndk.Graph.Closed
import Ndk.Graph.Order
import Ndk.Graph.Termination
import Ndk.Test.Driver
import Ndk.Test.Platform
import Ndk.Test.Libcxx
import Ndk.Test.Xunit
import Ndk.Test.ConfigLookup
import Ndk.Test.Ui
import Ndk.Test.Delivery
import Ndk.Test.Device
import Ndk.Test.Types
import Ndk.Test.Push
import Ndk.Toolchain.SelfTest
import Ndk.Toolchain.Repeat
