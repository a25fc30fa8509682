import OvsP4ctl.Python
import OvsP4ctl.Codec.Number
import OvsP4ctl.Codec.Address
import OvsP4ctl.Codec.Encode
import OvsP4ctl.Codec.Decode
import OvsP4ctl.Schema
import OvsP4ctl.TableEntry
import OvsP4ctl.Write
import OvsP4ctl.Flow
import OvsP4ctl.AddEntry
import OvsP4ctl.Device
import OvsP4ctl.Stream
import OvsP4ctl.Session
import OvsP4ctl.Cli
import OvsP4ctl.Resources
import OvsP4ctl.Requests
