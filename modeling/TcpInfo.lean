import TcpInfo.Go.Runtime
import TcpInfo.Inetdiag.Msg
import TcpInfo.Inetdiag.Addr
import TcpInfo.Inetdiag.RouteAttr
import TcpInfo.Inetdiag.Parse
import TcpInfo.Inetdiag.Compare
import TcpInfo.Inetdiag.LoadNext
import TcpInfo.Cache.Cache
import TcpInfo.Saver.Connection
import TcpInfo.Saver.Saver
import TcpInfo.Saver.Records
import TcpInfo.Saver.Writers
import TcpInfo.Saver.Marshaller
import TcpInfo.Saver.Inputs
import TcpInfo.Saver.Rotation
import TcpInfo.Saver.Files
import TcpInfo.Saver.Retention
import TcpInfo.Saver.Completion
